import GptTrader.Coinbase.UserEventHandler

/-!
# Fills of messages and of the REST backfill

What `CoinbaseUserEventHandler` (`user_event_handler.py`) does with a fill event
of a WebSocket message and with a fill a REST service lists.  An absent text is
empty; the texts whose default matters are optional.
-/

namespace GptTrader

/-- A fill a REST service lists; `times` are the texts of the keys a timestamp
is looked up under, in order. -/
structure RestFill where
  fillId : String
  tradeId : String
  orderId : String
  clientOrderId : String
  productId : String
  side : String
  size : Option String
  price : Option String
  times : List String
  fee : Option String
  feeCurrency : String

section Parsing

variable (formats : TextFormats)

/-- `text.replace("Z", "+00:00")`. -/
def zoned (text : String) : String :=
  .ofList (text.toList.flatMap fun char =>
    if char = 'Z' then "+00:00".toList else [char])

/-- `datetime.fromisoformat(text.replace("Z", "+00:00"))`. -/
def isoTime (text : String) : Option DateTime :=
  formats.parseDateTime (zoned text)

namespace RestFill

/-- `_parse_fill_timestamp`: the first text that is a time. -/
def timestamp (fill : RestFill) : Option DateTime :=
  (fill.times.filter (· ≠ "")).findSome? (isoTime formats)

/-- `decimal_value(str(value))`; an absent value is the text `None`. -/
def amount (text : Option String) : Except StoreError Decimal :=
  match formats.parseDecimal (text.getD "None") with
  | some value => .ok value
  | none => .error (.integrity "Invalid accounting decimal")

/-- `decimal_value(value, positive=True)`. -/
def positiveAmount (text : Option String) :
    Except StoreError { value : ℚ // 0 < value } := do
  match ← amount formats text with
  | .finite value =>
      if positive : 0 < value then .ok ⟨value, positive⟩
      else .error (.integrity "Invalid accounting decimal")
  | _ => .error (.integrity "Invalid accounting decimal")

def feeAmount (fill : RestFill) : Except StoreError (Option ℚ) :=
  match fill.fee with
  | none => .ok none
  | some text => do
      match ← amount formats (some text) with
      | .finite value => .ok (some value)
      | _ => .error (.integrity "Invalid accounting decimal")

/-- `FillFact(…)`: the checks of its constructor, in order. -/
def toFact (fill : RestFill) (fillId : String) (timestamp : DateTime) :
    Except StoreError FillFact :=
  let side := formats.lower fill.side
  if identified : fillId ≠ "" ∧ fill.orderId ≠ "" ∧ fill.productId ≠ "" then
    if sided : side = "buy" ∨ side = "sell" then do
      let ⟨quantity, quantityPositive⟩ ← positiveAmount formats fill.size
      let ⟨price, pricePositive⟩ ← positiveAmount formats fill.price
      if timestamp.aware = true then
        let fee ← feeAmount formats fill
        .ok
          { fillId := fillId
            orderId := fill.orderId
            clientOrderId := fill.clientOrderId
            symbol := fill.productId
            side := side
            quantity := quantity
            price := price
            executedAt := timestamp.instant
            fee := fee
            feeCurrency :=
              if fill.feeCurrency = "" then none else some fill.feeCurrency
            identified := identified
            sided := sided
            positive := ⟨quantityPositive, pricePositive⟩ }
      else .error (.integrity "Invalid accounting timestamp")
    else
      .error (.integrity "Fill requires identity, symbol and explicit side")
  else .error (.integrity "Fill requires identity, symbol and explicit side")

def identify (fill : RestFill) : Except StoreError (FillFact × DateTime) :=
  let fillId := UserEventHandler.orElse fill.fillId fill.tradeId
  match fill.timestamp formats with
  | none =>
      .error (.integrity
        "Identified fill requires venue fill ID and execution timestamp")
  | some moment =>
      if fillId = "" then
        .error (.integrity
          "Identified fill requires venue fill ID and execution timestamp")
      else (fill.toFact formats fillId moment).map fun fact => (fact, moment)

end RestFill

end Parsing

namespace UserEventHandler

variable (context : OrdersContext)

def laterTime (latest : Option DateTime) (moment : DateTime) :
    Except StoreError (Option DateTime) :=
  match latest with
  | none => .ok (some moment)
  | some known => do
      if ← (known.lt moment).mapError .python then .ok (some moment)
      else .ok (some known)

end UserEventHandler

end GptTrader
