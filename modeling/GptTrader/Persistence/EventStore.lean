import Mathlib.Data.List.DropRight
import GptTrader.Python.PyValues

/-!
# The event store

`persistence/event_store.py` with the event table of `persistence/database.py`.  An event
is written through to the database, whose result is not looked at, and appended to a
bounded cache; the reads of a persistent store go to the database.
-/

namespace GptTrader

namespace Events

/-- A value of SQLite. -/
inductive SqlValue where
  | null
  | integer (value : ℤ)
  | real
  | text (value : String)
  deriving DecidableEq

/-- `json_extract(json, '$.symbol')`, which returns an array or an object as its text. -/
def symbolValue (render : Json → String) (json : Json) : SqlValue :=
  match json.field? "symbol" with
  | none => .null
  | some .null => .null
  | some (.bool value) => .integer (if value then 1 else 0)
  | some (.int value) => .integer value
  | some (.float _) => .real
  | some (.str text) => .text text
  | some (.arr items) => .text (render (.arr items))
  | some (.obj fields) => .text (render (.obj fields))

/-- `str` of a value, `json.dumps` and `json.loads`, and what SQLite does: the text of a
real number, which texts the index on the symbol accepts, and `json_extract` of the symbol
from a text that it accepts. -/
structure EventFormats where
  str : PyValue → String
  dumps : PyValue → Except PyError String
  loads : String → Except PyError Json
  realText : ℚ → String
  accepted : String → Bool
  jsonExtract : String → SqlValue
  render : Json → String
  loads_dumps {value : PyValue} {text : String} : dumps value = .ok text →
    ∃ json, value.toJson = .ok json ∧ loads text = .ok json
  extract_symbol {text : String} {json : Json} : accepted text = true →
    loads text = .ok json → jsonExtract text = symbolValue render json

/-- An event as callers see it. -/
structure PyEvent where
  type : PyValue
  data : PyValue

def PyEvent.toJson (event : PyEvent) : Except PyError (Json × Json) := do
  let type ← event.type.toJson
  let data ← event.data.toJson
  pure (type, data)

variable (formats : EventFormats)

/-! ## `DatabaseEngine` -/

/-- A row of the table, whose rows stand in the order of their ids. -/
structure Row where
  eventType : String
  payload : String
  botId : Option String
  deriving DecidableEq

def bindInt (value : ℤ) : Except PyError ℤ :=
  if -2 ^ 63 ≤ value ∧ value < 2 ^ 63 then .ok value else .error .overflowError

/-- What a `TEXT NOT NULL` column makes of a value: its text, or nothing where the
statement fails. -/
def columnText : PyValue → Except PyError (Option String)
  | .str text => .ok (some text)
  | .bool value => .ok (some (if value then "1" else "0"))
  | .int value => (bindInt value).map fun value => some (toString value)
  | .float (.finite value) => .ok (some (formats.realText value))
  | .float (.infinity negative) => .ok (some (if negative then "-Inf" else "Inf"))
  | .float .nan => .ok none
  | _ => .ok none

/-- `write_event`: the rows, and whether the write succeeded. -/
def writeEvent (insertFails : Bool) (rows : List Row) (event : PyEvent)
    (botId : Option String) : Except PyError (List Row × Bool) :=
  match formats.dumps event.data with
  | .error .typeError => .ok (rows, false)
  | .error .valueError => .ok (rows, false)
  | .error error => .error error
  | .ok payload => do
      match ← columnText formats event.type with
      | none => pure (rows, false)
      | some eventType =>
          if insertFails || !formats.accepted payload then pure (rows, false)
          else pure (rows ++ [{ eventType, payload, botId }], true)

/-- The event of a row. -/
def readRow (row : Row) : Except PyError PyEvent :=
  (formats.loads row.payload).map fun json =>
    { type := .str row.eventType, data := .ofJson json }

def readAllEvents (rows : List Row) : Except PyError (List PyEvent) :=
  rows.mapM (readRow formats)

/-- The last rows, oldest first. -/
def lastRows (rows : List Row) (count : ℤ) : List Row :=
  (rows.reverse.take count.toNat).reverse

def readRecentEvents (rows : List Row) (count : ℤ) : Except PyError (List PyEvent) := do
  let limit ← bindInt count
  (lastRows rows limit).mapM (readRow formats)

def readRecentEventsByType (rows : List Row) (eventType : String) (count : ℤ) :
    Except PyError (List PyEvent) :=
  if count ≤ 0 then .ok []
  else do
    let limit ← bindInt count
    let typed := rows.filter fun row => decide (row.eventType = eventType)
    (lastRows typed limit).mapM (readRow formats)

def readEventsBySymbol (rows : List Row) (symbol : String) :
    Except PyError (List PyEvent) :=
  (rows.filter fun row =>
    decide (formats.jsonExtract row.payload = .text symbol)).mapM (readRow formats)

/-! ## `EventStore` -/

/-- `EventStore`, with the rows of its database if it is persistent. -/
structure EventStore where
  maxCacheSize : ℕ
  events : List PyEvent
  database : Option (List Row)

/-- `EventStore(None, max_cache_size)`. -/
def inMemory (maxCacheSize : ℕ) : EventStore :=
  { maxCacheSize := maxCacheSize, events := [], database := none }

/-- `EventStore(root, max_cache_size)`, with the rows that are found under the root. -/
def openStore (rows : List Row) (maxCacheSize : ℕ) : Except PyError EventStore := do
  let recent ← readRecentEvents formats rows maxCacheSize
  pure
    { maxCacheSize := maxCacheSize
      events := recent.rtake maxCacheSize
      database := some rows }

/-- `str(value) if value is not None else None`. -/
def botIdText (value : PyValue) : Option String :=
  match value with
  | .none => none
  | value => some (formats.str value)

/-- The loop of `_extract_bot_id` over nested payloads. -/
def nestedBotId (data : PyValue) : List String → Except PyError (Option String)
  | [] => .ok none
  | key :: rest => do
      if ← data.contains key then
        match ← data.getItem key with
        | .dict entries =>
            match PyValue.lookup entries "bot_id" with
            | some value => pure (botIdText formats value)
            | none => nestedBotId data rest
        | _ => nestedBotId data rest
      else nestedBotId data rest

/-- The bot an event names. -/
def extractBotId (data : PyValue) : Except PyError (Option String) := do
  if ← data.contains "bot_id" then
    return botIdText formats (← data.getItem "bot_id")
  else nestedBotId formats data ["position", "trade"]

def append (insertFails : Bool) (store : EventStore) (event : PyEvent) :
    Except PyError EventStore := do
  let database ←
    match store.database with
    | none => pure none
    | some rows =>
        let botId ← extractBotId formats event.data
        let written ← writeEvent formats insertFails rows event botId
        pure (some written.1)
  pure
    { store with
      database := database
      events := (store.events ++ [event]).rtake store.maxCacheSize }

def dictOf (entries : List (String × PyValue)) : PyValue :=
  .dict (entries.map fun entry => (.str entry.1, entry.2))

/-- The methods that append an event, with their arguments. -/
inductive Call where
  | append (eventType data : PyValue)
  | appendMetric (botId metrics : PyValue)
  | appendPosition (botId position : PyValue)
  | storeEvent (eventType data : PyValue)
  | appendError (error details botId message context : PyValue)
  | appendTrade (botIdOrTrade trade : PyValue)
  | store (event : PyValue)

/-- The event that a method appends. -/
def Call.event : Call → Except PyError PyEvent
  | .append eventType data => .ok { type := eventType, data := data }
  | .appendMetric botId metrics => .ok
      { type := .str "metric"
        data := dictOf [("bot_id", botId), ("metrics", metrics.orElse (.dict []))] }
  | .appendPosition botId position => .ok
      { type := .str "position"
        data := dictOf [("bot_id", botId), ("position", position)] }
  | .storeEvent eventType data => .ok { type := eventType, data := data }
  | .appendError error details botId message context => .ok
      { type := .str "error"
        data := dictOf [("bot_id", botId),
          ("error", message.orElse (error.orElse (.str "unknown_error"))),
          ("details", context.orElse (details.orElse (.dict [])))] }
  | .appendTrade botIdOrTrade trade =>
      if botIdOrTrade.isDict then
        .ok { type := .str "trade", data := botIdOrTrade }
      else
        match trade.orElse (.dict []) with
        | .dict entries => .ok
            { type := .str "trade"
              data := .dict ((.str "bot_id", botIdOrTrade) :: entries) }
        | _ => .error .typeError
  | .store event =>
      match event with
      | .dict entries => .ok
          { type := (PyValue.lookup entries "type").getD (.str "unknown")
            data := (PyValue.lookup entries "data").getD event }
      | _ => .ok { type := .str "event", data := dictOf [("payload", event)] }

def run (store : EventStore) (calls : List (Call × Bool)) : Except PyError EventStore :=
  calls.foldlM
    (fun store taken => do
      let event ← taken.1.event
      append formats taken.2 store event)
    store

/-! ## Reads -/

/-- `events[-count:]` of a positive count. -/
def lastEvents (events : List PyEvent) (count : ℤ) : List PyEvent :=
  events.drop (events.length - count.toNat)

def getRecent (store : EventStore) (count : ℤ) : Except PyError (List PyEvent) :=
  if count ≤ 0 then .ok []
  else
    match store.database with
    | some rows => readRecentEvents formats rows count
    | none => .ok (lastEvents store.events count)

def listEvents (store : EventStore) (count : Option ℤ) :
    Except PyError (List PyEvent) :=
  match count with
  | some count => getRecent formats store count
  | none =>
      match store.database with
      | some rows => readAllEvents formats rows
      | none => .ok store.events

/-- The last events of a type. -/
def getRecentByType (store : EventStore) (eventType : String) (count : ℤ) :
    Except PyError (List PyEvent) :=
  if count ≤ 0 then .ok []
  else
    match store.database with
    | some rows => readRecentEventsByType formats rows eventType count
    | none =>
        let filtered := store.events.filter fun event => event.type.isText eventType
        .ok (lastEvents filtered count)

def eventsOfSymbol (symbol : String) : List PyEvent → Except PyError (List PyEvent)
  | [] => .ok []
  | event :: rest => do
      let found ← event.data.get "symbol"
      let others ← eventsOfSymbol symbol rest
      pure (if found.isText symbol then event :: others else others)

/-- The events of a symbol. -/
def listEventsBySymbol (store : EventStore) (symbol : String) :
    Except PyError (List PyEvent) :=
  match store.database with
  | some rows => readEventsBySymbol formats rows symbol
  | none => eventsOfSymbol symbol store.events

end Events

end GptTrader
