import Mathlib.Data.List.Chain
import GptTrader.Experiment.StoredInput
import GptTrader.Python.BinaryFloats

/-!
# Candle captures

`capture_bars` and `build_input_payload` (`features/experiment/held_out.py`): the
raw candles of the responses of a capture, in any order and given any number of
times, as the rows of one input.  The file is given by its digest and the value
`json.loads` reads from it.
-/

namespace GptTrader

/-- What building an input raises. -/
inductive CaptureError where
  | python (error : PyError)
  | input (error : InputError)
  deriving DecidableEq

/-- `raise ValueError(message)`. -/
def CaptureError.valueError (message : String) : CaptureError :=
  .input (.valueError message)

/-- `payload[key]`. -/
def subscript (payload : Json) (key : String) : Except CaptureError Json :=
  (payload.getItem key).mapError .python

/-- `for item in value`. -/
def iterate : Json → Except CaptureError (List Json)
  | .arr items => .ok items
  | .obj fields => .ok (fields.map fun field => .str field.1)
  | .str text => .ok (text.toList.map fun char => .str (String.singleton char))
  | _ => .error (.python .typeError)

section Bars

variable (formats : InputFormats)

/-- `datetime.fromtimestamp(seconds, tz=UTC)`, of the years 1 to 9999. -/
def fromTimestamp (seconds : ℤ) : Except CaptureError AwareTime :=
  if -62135596800 ≤ seconds ∧ seconds ≤ 253402300799 then
    .ok { instant := seconds * 1000000, offset := 0 }
  else .error (.python .valueError)

def barTime (raw : Json) : Except CaptureError AwareTime :=
  match raw with
  | .int seconds => fromTimestamp seconds
  | .bool value => fromTimestamp (if value then 1 else 0)
  | .str text =>
      if formats.isDigit text then
        match formats.parseInt text with
        | some seconds => fromTimestamp seconds
        | none => .error (.python .valueError)
      else (awareTime formats (.str (replaceZ text))).mapError .input
  | other =>
      (awareTime formats (.str (replaceZ (formats.text other)))).mapError .input

/-- The row of one raw candle. -/
def captureRow (time : AwareTime) (raw : Json) : Except CaptureError Json := do
  let openText ← subscript raw "open"
  let high ← subscript raw "high"
  let low ← subscript raw "low"
  let close ← subscript raw "close"
  let volume ← subscript raw "volume"
  .ok (.obj [
    ("ts", .str (time.isoformat formats)),
    ("open", .str (formats.text openText)),
    ("high", .str (formats.text high)),
    ("low", .str (formats.text low)),
    ("close", .str (formats.text close)),
    ("volume", .str (formats.text volume))])

def readBar (start finish : AwareTime) (raw : Json) :
    Except CaptureError (Option (AwareTime × Json)) := do
  let given ← subscript raw "start"
  let time ← barTime formats given
  if start.instant ≤ time.instant ∧ time.instant < finish.instant then
    let row ← captureRow formats time raw
    .ok (some (time, row))
  else .ok none

/-- `bars.setdefault(ts, bar) != bar`, of a raw candle of the window. -/
def addBar (start finish : AwareTime) (bars : Dict ℤ Json) (raw : Json) :
    Except CaptureError (Dict ℤ Json) := do
  match ← readBar formats start finish raw with
  | none => .ok bars
  | some (time, row) =>
      match bars.get? time.instant with
      | none => .ok (bars.set time.instant row)
      | some held =>
          if held = row then .ok bars
          else .error (.valueError
            ("Conflicting duplicate bar at " ++ time.isoformat formats))

/-- The candles of one recorded reply. -/
def responseCandles (request : Json) : Except CaptureError (List Json) := do
  let response ← subscript request "response"
  match response.isObject, response.item "candles" with
  | true, .arr raws => .ok raws
  | _, _ => .error (.valueError "Capture holds a malformed candle response")

def addResponse (start finish : AwareTime) (bars : Dict ℤ Json) (request : Json) :
    Except CaptureError (Dict ℤ Json) := do
  let raws ← responseCandles request
  raws.foldlM (addBar formats start finish) bars

def captureSchema : String := "coinbase-public-candles-capture/1"

/-- `int((end - start) / timedelta(hours=1))`. -/
def expectedBars (start finish : AwareTime) : ℤ :=
  TextFormats.truncate
    (nearestFloat (((finish.instant - start.instant : ℤ) : ℚ) / (3600000000 : ℕ)))

def captureBars (capture : Json) : Except CaptureError (List Json) := do
  let schema ← (capture.getD "schema" .null).mapError .python
  let granularity ← (capture.getD "granularity" .null).mapError .python
  if schema ≠ .str captureSchema ∨ granularity ≠ .str "ONE_HOUR" then
    .error (.valueError "Unsupported candle capture")
  else do
    let given ← subscript capture "start"
    let start ← (awareTime formats given).mapError .input
    let givenFinish ← subscript capture "end"
    let finish ← (awareTime formats givenFinish).mapError .input
    let requests ← subscript capture "requests"
    let requests ← iterate requests
    let bars ← requests.foldlM (addResponse formats start finish) Dict.empty
    let ordered := (bars.entries.mergeSort fun left right =>
      decide (left.1 ≤ right.1)).map Prod.snd
    let gap : CaptureError := .valueError ("Gap in capture: " ++
      toString ordered.length ++ " of " ++ toString (expectedBars start finish) ++
      " hourly bars present")
    if (ordered.length : ℤ) ≠ expectedBars start finish then .error gap
    else
      match ordered with
      | [] => .ok ordered
      | first :: _ => do
          let time ← (awareTime formats (first.item "ts")).mapError .input
          if time.instant ≠ start.instant then .error gap else .ok ordered

/-- What an input is built with, apart from its capture. -/
structure BuildOptions where
  scoredFrom : String
  benchmark : String
  settings : Json
  manager : Option Json
  rulebooks : Option Json

/-- The experiment input of a capture. -/
def buildInputPayload (digest : String) (capture : Json)
    (options : BuildOptions) : Except CaptureError Json := do
  let bars ← captureBars formats capture
  let fetchedAt ← subscript capture "fetched_at"
  let symbol ← subscript capture "symbol"
  let recordedAt ← subscript capture "end"
  let payload := ((Json.obj [
    ("schema_version", .int 1),
    ("source", .str ("coinbase public hourly candles; raw capture sha256=" ++
      digest ++ "; fetched_at=" ++ formats.text fetchedAt)),
    ("symbol", symbol),
    ("recorded_at", recordedAt),
    ("candles", .arr bars),
    ("scored_from", .str options.scoredFrom),
    ("benchmark", .str options.benchmark),
    ("settings", options.settings)]).setSome
    "manager" options.manager).setSome "rulebooks" options.rulebooks
  let _ ← (parseInput formats payload).mapError .input
  .ok payload

end Bars

section Gathered

variable {formats : InputFormats} {start finish : AwareTime}
  {before bars after : Dict ℤ Json}

/-- The raw candles of the window are all held, each under its time, and nothing
else is. -/
structure Gathers (formats : InputFormats) (start finish : AwareTime)
    (raws : List Json) (before after : Dict ℤ Json) : Prop where
  keeps : ∀ instant row, before.get? instant = some row →
    after.get? instant = some row
  holds : ∀ raw ∈ raws, ∃ found, readBar formats start finish raw = .ok found ∧
    ∀ bar ∈ found, after.get? bar.1.instant = some bar.2
  comes : ∀ instant row, after.get? instant = some row →
    before.get? instant = some row ∨ ∃ raw ∈ raws, ∃ time,
      readBar formats start finish raw = .ok (some (time, row)) ∧
        time.instant = instant

namespace Gathers

theorem nil : Gathers formats start finish [] before before :=
  { keeps := fun _ _ held => held
    holds := fun _ member => absurd member List.not_mem_nil
    comes := fun _ _ held => .inl held }

theorem append {first second : List Json}
    (gathered : Gathers formats start finish first before bars)
    (more : Gathers formats start finish second bars after) :
    Gathers formats start finish (first ++ second) before after where
  keeps instant row held := more.keeps instant row (gathered.keeps instant row held)
  holds raw member := by
    rcases List.mem_append.mp member with early | late
    · obtain ⟨found, read, held⟩ := gathered.holds raw early
      exact ⟨found, read, fun bar present =>
        more.keeps _ _ (held bar present)⟩
    · exact more.holds raw late
  comes instant row held := by
    rcases more.comes instant row held with middle | ⟨raw, member, read⟩
    · rcases gathered.comes instant row middle with old | ⟨raw, member, read⟩
      · exact .inl old
      · exact .inr ⟨raw, List.mem_append_left _ member, read⟩
    · exact .inr ⟨raw, List.mem_append_right _ member, read⟩

theorem single {raw : Json}
    (added : addBar formats start finish before raw = .ok after) :
    Gathers formats start finish [raw] before after := by
  unfold addBar at added
  obtain ⟨found, read, added⟩ := Outcome.bind_eq_ok.mp added
  have only : ∀ {found : Option (AwareTime × Json)},
      readBar formats start finish raw = .ok found →
      (∀ bar ∈ found, after.get? bar.1.instant = some bar.2) →
      ∀ other ∈ [raw], ∃ found, readBar formats start finish other = .ok found ∧
        ∀ bar ∈ found, after.get? bar.1.instant = some bar.2 := by
    intro found read held other member
    obtain rfl := List.mem_singleton.mp member
    exact ⟨found, read, held⟩
  cases found with
  | none =>
      cases added
      exact
        { keeps := fun _ _ held => held
          holds := only read nofun
          comes := fun _ _ held => .inl held }
  | some bar =>
      obtain ⟨time, row⟩ := bar
      dsimp only at added
      split at added
      · next absent =>
          cases added
          refine ⟨?_, only read ?_, ?_⟩
          · intro instant other held
            rw [Dict.get?_set]
            split
            · next same =>
                rw [same, absent] at held
                cases held
            · exact held
          · rintro _ ⟨⟩
            rw [Dict.get?_set, if_pos rfl]
          · intro instant other held
            rw [Dict.get?_set] at held
            split at held
            · next same =>
                cases held
                exact .inr ⟨raw, List.mem_singleton.mpr rfl, time, read,
                  same.symm⟩
            · exact .inl held
      · next stored present =>
          obtain ⟨same, returned⟩ := Outcome.branch_eq_ok.mp added
          cases returned
          refine ⟨fun _ _ held => held, only read ?_, fun _ _ held => .inl held⟩
          rintro _ ⟨⟩
          rw [present, same]

theorem ofFold {raws : List Json}
    (folded : raws.foldlM (addBar formats start finish) before = .ok after) :
    Gathers formats start finish raws before after := by
  induction raws generalizing before with
  | nil =>
      cases folded
      exact nil
  | cons raw rest induction =>
      rw [List.foldlM_cons, Outcome.bind_eq_ok] at folded
      obtain ⟨bars, added, folded⟩ := folded
      exact append (single added) (induction folded)

end Gathers

/-- Every raw candle of the capture. -/
def rawCandles (requests : List Json) : List Json :=
  requests.flatMap fun request =>
    match responseCandles request with
    | .ok raws => raws
    | .error _ => []

theorem gathers_rawCandles {requests : List Json}
    (folded : requests.foldlM (addResponse formats start finish) before =
      .ok after) :
    Gathers formats start finish (rawCandles requests) before after := by
  induction requests generalizing before with
  | nil =>
      cases folded
      exact .nil
  | cons request rest induction =>
      rw [List.foldlM_cons, Outcome.bind_eq_ok] at folded
      obtain ⟨bars, added, folded⟩ := folded
      unfold addResponse at added
      obtain ⟨raws, response, added⟩ := Outcome.bind_eq_ok.mp added
      have first : rawCandles (request :: rest) = raws ++ rawCandles rest := by
        unfold rawCandles
        rw [List.flatMap_cons, response]
      rw [first]
      exact (Gathers.ofFold added).append (induction folded)

end Gathered

section Hours

variable {start finish : AwareTime}

theorem expectedBars_eq {count : ℕ} (some : 1 ≤ count) (few : count ≤ 2000)
    (expected : expectedBars start finish = count) :
    (finish.instant - start.instant) / hour = count := by
  unfold expectedBars at expected
  set elapsed := finish.instant - start.instant
  set quotient : ℚ := (elapsed : ℚ) / (3600000000 : ℕ) with quotient_eq
  have positive : 0 < nearestFloat quotient := by
    by_contra nonpos
    unfold TextFormats.truncate at expected
    split at expected
    · have zero : nearestFloat quotient = 0 := le_antisymm (not_lt.mp nonpos) ‹_›
      rw [zero, Int.floor_zero] at expected
      omega
    · have ceiling := Int.ceil_mono (not_lt.mp nonpos)
      rw [Int.ceil_zero] at ceiling
      omega
  unfold TextFormats.truncate at expected
  rw [if_pos positive.le] at expected
  have small : quotient < 2 ^ 21 := by
    by_contra large
    have reached := le_nearestFloat (not_lt.mp large)
    have floor := Int.floor_mono reached
    rw [expected] at floor
    norm_num at floor
    omega
  have nonneg : 0 ≤ elapsed := by
    by_contra negative
    have quotient_nonpos : quotient ≤ 0 := by
      apply div_nonpos_of_nonpos_of_nonneg
      · exact_mod_cast (not_le.mp negative).le
      · positivity
    exact absurd positive (nearestFloat_nonpos quotient_nonpos).not_gt
  rw [← expected, quotient_eq,
    floor_nearestFloat nonneg (by norm_num) (by norm_num) small]
  rfl

end Hours

section Built

variable {formats : InputFormats} {start finish time : AwareTime}
  {capture raw row payload : Json} {requests rows : List Json}

/-- What a capture says of its window and its requests. -/
structure CaptureWindow (formats : InputFormats) (capture : Json)
    (start finish : AwareTime) (requests : List Json) : Prop where
  start : ∃ given, capture.field? "start" = some given ∧
    awareTime formats given = .ok start
  finish : ∃ given, capture.field? "end" = some given ∧
    awareTime formats given = .ok finish
  requests : ∃ given, capture.field? "requests" = some given ∧
    iterate given = .ok requests

theorem CaptureWindow.unique {start' finish' : AwareTime}
    {requests' : List Json}
    (window : CaptureWindow formats capture start finish requests)
    (other : CaptureWindow formats capture start' finish' requests') :
    start = start' ∧ finish = finish' ∧ requests = requests' := by
  obtain ⟨_, begins, start_eq⟩ := window.start
  obtain ⟨_, begins', start_eq'⟩ := other.start
  obtain ⟨_, ends, finish_eq⟩ := window.finish
  obtain ⟨_, ends', finish_eq'⟩ := other.finish
  obtain ⟨_, asked, requests_eq⟩ := window.requests
  obtain ⟨_, asked', requests_eq'⟩ := other.requests
  rw [begins] at begins'
  rw [ends] at ends'
  rw [asked] at asked'
  cases begins'
  cases ends'
  cases asked'
  exact ⟨Except.ok.inj (start_eq.symm.trans start_eq'),
    Except.ok.inj (finish_eq.symm.trans finish_eq'),
    Except.ok.inj (requests_eq.symm.trans requests_eq')⟩

def StartsAt (formats : InputFormats) (raw : Json) (time : AwareTime) : Prop :=
  ∃ given, raw.field? "start" = some given ∧ barTime formats given = .ok time

def Within (start finish time : AwareTime) : Prop :=
  start.instant ≤ time.instant ∧ time.instant < finish.instant

/-- One row for each whole hour of the window, none of its raw candles dropped. -/
structure Lossless (formats : InputFormats) (start finish : AwareTime)
    (requests rows : List Json) : Prop where
  counted : (rows.length : ℤ) = (finish.instant - start.instant) / hour
  hourly : ∀ (index : ℕ) row, rows[index]? = some row →
    ∃ raw ∈ rawCandles requests, ∃ time, StartsAt formats raw time ∧
      time.instant = start.instant + index * hour ∧
      captureRow formats time raw = .ok row
  kept : ∀ raw ∈ rawCandles requests, ∀ time, StartsAt formats raw time →
    Within start finish time → ∃ index : ℕ, ∃ row,
      time.instant = start.instant + index * hour ∧
      rows[index]? = some row ∧ captureRow formats time raw = .ok row

/-- A bar of the window is missing, off the grid of hours, or given twice. -/
inductive Gappy (formats : InputFormats) (start finish : AwareTime)
    (requests : List Json) : Prop where
  | missing (count : ℕ)
      (inside : (count : ℤ) < (finish.instant - start.instant) / hour)
      (absent : ∀ raw ∈ rawCandles requests, ∀ time,
        StartsAt formats raw time →
        time.instant ≠ start.instant + count * hour)
  | offGrid (raw : Json) (time : AwareTime) (given : raw ∈ rawCandles requests)
      (starts : StartsAt formats raw time) (within : Within start finish time)
      (apart : ∀ count : ℕ, time.instant ≠ start.instant + count * hour)
  | conflicting (raw other : Json) (time again : AwareTime) (row differing : Json)
      (given : raw ∈ rawCandles requests) (starts : StartsAt formats raw time)
      (row_eq : captureRow formats time raw = .ok row)
      (otherGiven : other ∈ rawCandles requests)
      (otherStarts : StartsAt formats other again)
      (other_eq : captureRow formats again other = .ok differing)
      (within : Within start finish time) (same : again.instant = time.instant)
      (different : row ≠ differing)

theorem subscript_eq_ok {key : String} {value : Json} :
    subscript capture key = .ok value ↔ capture.field? key = some value := by
  unfold subscript
  rw [Outcome.mapError_eq_ok, Json.getItem_eq_ok]

theorem item_captureRow (made : captureRow formats time raw = .ok row) :
    row.item "ts" = .str (time.isoformat formats) := by
  unfold captureRow at made
  obtain ⟨_, _, made⟩ := Outcome.bind_eq_ok.mp made
  obtain ⟨_, _, made⟩ := Outcome.bind_eq_ok.mp made
  obtain ⟨_, _, made⟩ := Outcome.bind_eq_ok.mp made
  obtain ⟨_, _, made⟩ := Outcome.bind_eq_ok.mp made
  obtain ⟨_, _, made⟩ := Outcome.bind_eq_ok.mp made
  cases made
  rfl

theorem readBar_eq_ok {found : Option (AwareTime × Json)}
    (read : readBar formats start finish raw = .ok found) :
    ∃ time, StartsAt formats raw time ∧
      ((Within start finish time ∧ ∃ row, found = some (time, row) ∧
        captureRow formats time raw = .ok row) ∨
      (¬Within start finish time ∧ found = none)) := by
  unfold readBar at read
  obtain ⟨given, starts, read⟩ := Outcome.bind_eq_ok.mp read
  obtain ⟨time, timed, read⟩ := Outcome.bind_eq_ok.mp read
  refine ⟨time, ⟨given, subscript_eq_ok.mp starts, timed⟩, ?_⟩
  split at read
  · next within =>
      obtain ⟨row, made, returned⟩ := Outcome.bind_eq_ok.mp read
      cases returned
      exact .inl ⟨within, row, rfl, made⟩
  · next outside =>
      cases read
      exact .inr ⟨outside, rfl⟩

theorem StartsAt.unique {again : AwareTime} (starts : StartsAt formats raw time)
    (other : StartsAt formats raw again) : time = again := by
  obtain ⟨given, held, read⟩ := starts
  obtain ⟨_, held', read'⟩ := other
  rw [held] at held'
  cases held'
  exact Except.ok.inj (read.symm.trans read')

/-- What gathered bars are stored as. -/
structure CaptureRows (formats : InputFormats) (start finish : AwareTime)
    (requests rows : List Json) : Prop where
  expected : (rows.length : ℤ) = expectedBars start finish
  first : ∀ row ∈ rows.head?, ∃ time,
    awareTime formats (row.item "ts") = .ok time ∧
      time.instant = start.instant
  given : ∀ row ∈ rows, ∃ raw ∈ rawCandles requests, ∃ time,
    StartsAt formats raw time ∧ captureRow formats time raw = .ok row
  kept : ∀ raw ∈ rawCandles requests, ∀ time, StartsAt formats raw time →
    Within start finish time →
    ∃ row ∈ rows, captureRow formats time raw = .ok row

/-- A capture that builds has a window and its rows. -/
theorem captureBars_eq_ok (captured : captureBars formats capture = .ok rows) :
    ∃ start finish requests, CaptureWindow formats capture start finish requests ∧
      CaptureRows formats start finish requests rows := by
  unfold captureBars at captured
  obtain ⟨schema, _, captured⟩ := Outcome.bind_eq_ok.mp captured
  obtain ⟨granularity, _, captured⟩ := Outcome.bind_eq_ok.mp captured
  obtain ⟨_, captured⟩ := Outcome.guard_eq_ok.mp captured
  obtain ⟨given, begins, captured⟩ := Outcome.bind_eq_ok.mp captured
  obtain ⟨start, start_eq, captured⟩ := Outcome.bind_eq_ok.mp captured
  obtain ⟨givenFinish, ends, captured⟩ := Outcome.bind_eq_ok.mp captured
  obtain ⟨finish, finish_eq, captured⟩ := Outcome.bind_eq_ok.mp captured
  obtain ⟨asked, requested, captured⟩ := Outcome.bind_eq_ok.mp captured
  obtain ⟨requests, iterated, captured⟩ := Outcome.bind_eq_ok.mp captured
  obtain ⟨bars, folded, captured⟩ := Outcome.bind_eq_ok.mp captured
  dsimp only at captured
  obtain ⟨expected, captured⟩ := Outcome.guard_eq_ok.mp captured
  have gathered := gathers_rawCandles folded
  generalize listed : (bars.entries.mergeSort fun left right =>
    decide (left.1 ≤ right.1)).map Prod.snd = ordered at captured expected
  have mem_ordered : ∀ row, row ∈ ordered ↔
      ∃ instant, bars.get? instant = some row := by
    intro row
    rw [← listed, List.mem_map]
    simp only [List.mem_mergeSort, Prod.exists, Dict.get?_eq_some_iff,
      exists_eq_right]
  have same : rows = ordered ∧ ∀ row ∈ ordered.head?, ∃ time,
      awareTime formats (row.item "ts") = .ok time ∧
        time.instant = start.instant := by
    cases ordered with
    | nil =>
        cases captured
        exact ⟨rfl, by rintro _ ⟨⟩⟩
    | cons row rest =>
        obtain ⟨time, timed, captured⟩ := Outcome.bind_eq_ok.mp captured
        obtain ⟨placed, returned⟩ := Outcome.guard_eq_ok.mp captured
        cases returned
        refine ⟨rfl, ?_⟩
        rintro _ ⟨⟩
        exact ⟨time, Outcome.mapError_eq_ok.mp timed, not_not.mp placed⟩
  obtain ⟨rfl, first⟩ := same
  refine ⟨start, finish, requests,
    { start := ⟨given, subscript_eq_ok.mp begins,
        Outcome.mapError_eq_ok.mp start_eq⟩
      finish := ⟨givenFinish, subscript_eq_ok.mp ends,
        Outcome.mapError_eq_ok.mp finish_eq⟩
      requests := ⟨asked, subscript_eq_ok.mp requested, iterated⟩ },
    { expected := not_not.mp expected
      first := first
      given := ?_
      kept := ?_ }⟩
  · intro row member
    obtain ⟨instant, held⟩ := (mem_ordered row).mp member
    rcases gathered.comes instant row held with old | ⟨raw, listed, time, read, _⟩
    · rw [Dict.get?_empty] at old
      cases old
    · obtain ⟨again, starts, ⟨_, _, same, made⟩ | ⟨_, none⟩⟩ := readBar_eq_ok read
      · cases same
        exact ⟨raw, listed, time, starts, made⟩
      · cases none
  · intro raw member time starts within
    obtain ⟨found, read, held⟩ := gathered.holds raw member
    obtain ⟨again, starts', inside | ⟨outside, _⟩⟩ := readBar_eq_ok read
    · obtain ⟨_, row, rfl, made⟩ := inside
      obtain rfl := starts.unique starts'
      exact ⟨row, (mem_ordered row).mpr ⟨_, held _ rfl⟩, made⟩
    · obtain rfl := starts.unique starts'
      exact absurd within outside

theorem ReadsRows.instant_eq {previous : Option CandleText}
    {recordedAt : AwareTime} {candles : List CandleText}
    (reads : ReadsRows formats recordedAt previous rows candles)
    {first candle : CandleText} {index : ℕ} (start : candles[0]? = some first)
    (found : candles[index]? = some candle) :
    candle.ts.instant = first.ts.instant + index * hour := by
  have chain := reads.chain.right_of_append
  induction index generalizing candle with
  | zero =>
      obtain rfl := Option.some.inj (start.symm.trans found)
      simp
  | succ index induction =>
      obtain ⟨bound, rfl⟩ := List.getElem?_eq_some_iff.mp found
      have before := List.getElem?_eq_getElem
        (show index < candles.length by omega)
      rw [List.isChain_iff_getElem.mp chain index bound, induction before]
      push_cast
      ring

/-- The rows of an input that parses lose no candle. -/
theorem CaptureRows.lossless {input : ParsedInput} {recordedAt : AwareTime}
    (captured : CaptureRows formats start finish requests rows)
    (reads : ReadsInput formats payload input recordedAt rows) :
    Lossless formats start finish requests rows := by
  obtain ⟨some, few⟩ := length_inputRows reads.listed
  have listed := reads.readsRows
  have candle_of : ∀ (index : ℕ) row, rows[index]? = Option.some row →
      ∃ candle, input.candles[index]? = Option.some candle ∧
        awareTime formats (row.item "ts") = .ok candle.ts := by
    intro index row found
    rw [← listed.row_eq, List.getElem?_map] at found
    obtain ⟨candle, placed, same⟩ := Option.map_eq_some_iff.mp found
    refine ⟨candle, placed, ?_⟩
    rw [← same]
    exact listed.time_written (List.mem_of_getElem? placed)
  have placed : ∀ (index : ℕ) row time, rows[index]? = Option.some row →
      awareTime formats (row.item "ts") = .ok time →
      time.instant = start.instant + index * hour := by
    intro index row time found timed
    obtain ⟨candle, present, written⟩ := candle_of index row found
    obtain rfl := Except.ok.inj (timed.symm.trans written)
    have begun := List.getElem?_eq_getElem (show 0 < rows.length by omega)
    obtain ⟨first, head, opened⟩ := candle_of 0 _ begun
    obtain ⟨begins, early, same⟩ := captured.first _
      (by rw [Option.mem_def, List.head?_eq_getElem?, begun])
    obtain rfl := Except.ok.inj (early.symm.trans opened)
    rw [listed.instant_eq head present, same]
  refine ⟨(expectedBars_eq some few captured.expected.symm).symm, ?_, ?_⟩
  · intro index row found
    obtain ⟨raw, member, time, starts, made⟩ :=
      captured.given row (List.mem_of_getElem? found)
    refine ⟨raw, member, time, starts, ?_, made⟩
    apply placed index row time found
    rw [item_captureRow made]
    exact awareTime_isoformat time
  · intro raw member time starts within
    obtain ⟨row, listed, made⟩ := captured.kept raw member time starts within
    obtain ⟨index, found⟩ := List.mem_iff_getElem?.mp listed
    refine ⟨index, row, ?_, found, made⟩
    apply placed index row time found
    rw [item_captureRow made]
    exact awareTime_isoformat time

theorem Lossless.not_gappy
    (lossless : Lossless formats start finish requests rows) :
    ¬Gappy formats start finish requests := by
  intro gappy
  cases gappy with
  | missing count inside absent =>
      rw [← lossless.counted] at inside
      have found := List.getElem?_eq_getElem
        (show count < rows.length by omega)
      obtain ⟨raw, member, time, starts, placed, _⟩ :=
        lossless.hourly count _ found
      exact absent raw member time starts placed
  | offGrid raw time given starts within apart =>
      obtain ⟨index, _, placed, _⟩ := lossless.kept raw given time starts within
      exact apart index placed
  | conflicting raw other time again row differing given starts row_eq otherGiven
      otherStarts other_eq within same different =>
      obtain ⟨index, held, placed, found, made⟩ :=
        lossless.kept raw given time starts within
      have inside : Within start finish again := by
        unfold Within
        rw [same]
        exact within
      obtain ⟨index', held', placed', found', made'⟩ :=
        lossless.kept other otherGiven again otherStarts inside
      have indices : index = index' := by
        unfold hour at placed placed'
        omega
      subst indices
      have rows_eq := Option.some.inj (found.symm.trans found')
      rw [row_eq] at made
      rw [other_eq] at made'
      cases made
      cases made'
      exact different rows_eq

theorem item_built {digest : String} {options : BuildOptions}
    (built : buildInputPayload formats digest capture options = .ok payload) :
    ∃ rows input, captureBars formats capture = .ok rows ∧
      payload.item "candles" = .arr rows ∧
      parseInput formats payload = .ok input := by
  unfold buildInputPayload at built
  obtain ⟨rows, captured, built⟩ := Outcome.bind_eq_ok.mp built
  obtain ⟨fetchedAt, _, built⟩ := Outcome.bind_eq_ok.mp built
  obtain ⟨symbol, _, built⟩ := Outcome.bind_eq_ok.mp built
  obtain ⟨recordedAt, _, built⟩ := Outcome.bind_eq_ok.mp built
  dsimp only at built
  obtain ⟨input, parsed, built⟩ := Outcome.bind_eq_ok.mp built
  cases built
  refine ⟨rows, input, captured, ?_, Outcome.mapError_eq_ok.mp parsed⟩
  unfold Json.item
  rw [Json.field?_setSome (by rw [Json.isObject_setSome]; rfl),
    if_neg (by decide), Json.field?_setSome rfl, if_neg (by decide)]
  rfl

end Built

/-! ## A capture of two hours -/

section Example

def rawCandle (index : ℕ) : Json :=
  .obj [
    ("start", .int (1704067200 + 3600 * index)),
    ("open", .str "100"),
    ("high", .str "100"),
    ("low", .str "100"),
    ("close", .str "100"),
    ("volume", .str "1")]

def candleResponse (indices : List ℕ) : Json :=
  .obj [("response", .obj [("candles", .arr (indices.map rawCandle))])]

/-- The responses overlap, are out of order and reach beyond the window. -/
def hourlyCapture : Json :=
  .obj [
    ("schema", .str captureSchema),
    ("granularity", .str "ONE_HOUR"),
    ("symbol", .str "BTC-USD"),
    ("fetched_at", .str "2024-01-01T02:00:00+00:00"),
    ("start", .str "2024-01-01T00:00:00+00:00"),
    ("end", .str "2024-01-01T02:00:00+00:00"),
    ("requests", .arr [candleResponse [2, 1], candleResponse [1, 0]])]

def capturedInput : InputSpelling :=
  { label := "coinbase public hourly candles; raw capture sha256=" ++ "ab12" ++
      "; fetched_at=2024-01-01T02:00:00+00:00"
    symbol := "BTC-USD"
    feeZeros := 0
    early := true
    labelled := by decide
    traded := bitcoin_isSymbol }

def captureOptions : BuildOptions :=
  { scoredFrom := "2024-01-01T01:00:00+00:00"
    benchmark := "ai-rulebook"
    settings := (spelledSettings 0).toDict (spelledTexts shortSpelling)
    manager := none
    rulebooks := some (.arr [VersionText.toDict (spelledTexts shortSpelling)
      (capturedInput.version (spelledTexts shortSpelling))]) }

theorem gathers_hourlyCapture : ∃ bars,
    [candleResponse [2, 1], candleResponse [1, 0]].foldlM
        (addResponse (spelledTexts shortSpelling) (barHour 0) (barHour 2))
        Dict.empty = .ok bars ∧
      bars.entries = [1, 0].map fun index => ((barHour index).instant,
        (spelledCandle (spelledTexts shortSpelling) index).row) := by
  have gathered : ([candleResponse [2, 1], candleResponse [1, 0]].foldlM
      (addResponse (spelledTexts shortSpelling) (barHour 0) (barHour 2))
      Dict.empty).toOption.map Dict.entries =
        some ([1, 0].map fun index => ((barHour index).instant,
          (spelledCandle (spelledTexts shortSpelling) index).row)) := by
    decide +kernel
  obtain ⟨bars, returned, entries⟩ := Option.map_eq_some_iff.mp gathered
  exact ⟨bars, Outcome.toOption_eq_some.mp returned, entries⟩

theorem sorted_hours (early late : Json) :
    (([((barHour 1).instant, late), ((barHour 0).instant, early)].mergeSort
      fun left right => decide (left.1 ≤ right.1)).map Prod.snd) = [early, late] := by
  simp [List.mergeSort, barHour, hour]

theorem captureBars_hourlyCapture :
    captureBars (spelledTexts shortSpelling) hourlyCapture =
      .ok ((capturedInput.candles (spelledTexts shortSpelling)).map
        CandleText.row) := by
  obtain ⟨bars, gathered, entries⟩ := gathers_hourlyCapture
  have ordered : (bars.entries.mergeSort fun left right =>
      decide (left.1 ≤ right.1)).map Prod.snd =
        [(spelledCandle (spelledTexts shortSpelling) 0).row,
          (spelledCandle (spelledTexts shortSpelling) 1).row] := by
    rw [entries]
    exact sorted_hours _ _
  unfold captureBars
  refine Outcome.bind_eq_ok.mpr ⟨.str captureSchema, by rfl, ?_⟩
  refine Outcome.bind_eq_ok.mpr ⟨.str "ONE_HOUR", by rfl, ?_⟩
  refine (if_neg (by decide)).trans ?_
  refine Outcome.bind_eq_ok.mpr ⟨.str "2024-01-01T00:00:00+00:00", by rfl, ?_⟩
  refine Outcome.bind_eq_ok.mpr ⟨barHour 0, by decide +kernel, ?_⟩
  refine Outcome.bind_eq_ok.mpr ⟨.str "2024-01-01T02:00:00+00:00", by rfl, ?_⟩
  refine Outcome.bind_eq_ok.mpr ⟨barHour 2, by decide +kernel, ?_⟩
  refine Outcome.bind_eq_ok.mpr
    ⟨.arr [candleResponse [2, 1], candleResponse [1, 0]], by rfl, ?_⟩
  refine Outcome.bind_eq_ok.mpr ⟨_, by rfl, ?_⟩
  refine Outcome.bind_eq_ok.mpr ⟨bars, gathered, ?_⟩
  dsimp only
  rw [ordered]
  refine (if_neg (by decide +kernel)).trans ?_
  refine Outcome.bind_eq_ok.mpr ⟨barHour 0, by decide +kernel, ?_⟩
  exact if_neg (by decide)

end Example

end GptTrader
