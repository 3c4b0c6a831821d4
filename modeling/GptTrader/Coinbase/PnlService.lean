import GptTrader.Core.ProjectionOrder
import GptTrader.Library.ReflectedWalk

/-!
# Profit and loss of anonymous fills

`PnLService` (`features/brokerages/coinbase/rest/pnl_service.py`) without an
orders store: each fill changes the position of its product, whose side is that
of the first fill for good.  A fill against the position closes what is held, and
what it would open on the other side is dropped, so the books are exact for as
long as the net quantity never changes its sign.  Decimals are exact.
-/

namespace GptTrader

inductive PositionSide where
  | long
  | short
  deriving DecidableEq, Repr

/-- `PositionState`, as far as the service reads and writes it. -/
structure PositionState where
  symbol : String
  side : PositionSide
  quantity : ℚ
  entryPrice : ℚ
  realizedPnl : ℚ

/-- A fill payload; what is missing, empty or a zero number is `none`. -/
structure PnlFill where
  productId : Option String
  size : Option ℚ
  price : Option ℚ
  side : Option String

inductive PnlError where
  | accountingIntegrity (message : String)
  | divisionByZero
  deriving DecidableEq

/-- What `get_position_pnl` returns; a product without a position has neither
entry nor mark nor side. -/
structure PositionPnl where
  symbol : String
  quantity : ℚ
  entry : Option ℚ
  mark : Option ℚ
  unrealizedPnl : ℚ
  realizedPnl : ℚ
  side : Option PositionSide

/-- `PnLService`: the positions, and whether there is an orders store. -/
structure PnlService where
  positions : Dict String PositionState
  storesOrders : Bool

def PositionSide.signed (side : PositionSide) (value : ℚ) : ℚ :=
  match side with
  | .long => value
  | .short => -value

namespace PositionState

def increase (position : PositionState) (size price : ℚ) :
    Except PnlError PositionState :=
  let totalCost := position.quantity * position.entryPrice + size * price
  let newQuantity := position.quantity + size
  if newQuantity = 0 then .error .divisionByZero
  else .ok { position with
    entryPrice := totalCost / newQuantity
    quantity := newQuantity }

/-- The closed part is realized at the price. -/
def reduce (position : PositionState) (size price : ℚ) : PositionState :=
  let closeQuantity := min position.quantity size
  let pnl := (price - position.entryPrice) * closeQuantity
  { position with
    realizedPnl := position.realizedPnl + position.side.signed pnl
    quantity := position.quantity - closeQuantity }

end PositionState

namespace PnlService

variable (formats : TextFormats)

def fresh : PnlService :=
  { positions := .empty, storesOrders := false }

/-- A buy is long, everything else short. -/
def fillSide (side : String) : PositionSide :=
  if formats.lower side = "buy" then .long else .short

/-- One fill booked on its position. -/
def processFillForPnl (service : PnlService) (fill : PnlFill) :
    Except PnlError Unit × PnlService :=
  if service.storesOrders then
    (.error (.accountingIntegrity ("Persist identified fill facts before " ++
      "reading PnL; anonymous callbacks are not durable")), service)
  else
    match fill.productId, fill.size, fill.price, fill.side with
    | some productId, some size, some price, some side =>
        let side := fillSide formats side
        match service.positions.get? productId with
        | none =>
            (.ok (), { service with
              positions := service.positions.set productId
                { symbol := productId
                  side := side
                  quantity := size
                  entryPrice := price
                  realizedPnl := 0 } })
        | some position =>
            if position.side = side then
              match position.increase size price with
              | .error error => (.error error, service)
              | .ok position =>
                  (.ok (), { service with
                    positions := service.positions.set productId position })
            else
              (.ok (), { service with
                positions := service.positions.set productId
                  (position.reduce size price) })
    | _, _, _, _ => (.ok (), service)

/-- `get_position_pnl` without an orders store, at the mark of the market data. -/
def getPositionPnl (service : PnlService) (symbol : String)
    (rawMark : Option ℚ) : PositionPnl :=
  match service.positions.get? symbol with
  | none =>
      { symbol := symbol
        quantity := 0
        entry := none
        mark := none
        unrealizedPnl := 0
        realizedPnl := 0
        side := none }
  | some position =>
      let mark := rawMark.getD position.entryPrice
      { symbol := symbol
        quantity := position.quantity
        entry := some position.entryPrice
        mark := some mark
        unrealizedPnl := position.side.signed
          ((mark - position.entryPrice) * position.quantity)
        realizedPnl := position.realizedPnl
        side := some position.side }

/-- The service after a list of fills. -/
def processFills (service : PnlService) (fills : List PnlFill) : PnlService :=
  fills.foldl (fun service fill => (service.processFillForPnl formats fill).2)
    service

end PnlService

def PositionPnl.signedQuantity (pnl : PositionPnl) : ℚ :=
  match pnl.side with
  | none => pnl.quantity
  | some side => side.signed pnl.quantity

/-! ## Trades of one product -/

/-- A fill of some size and price, with the text of its side. -/
structure VenueTrade (formats : TextFormats) where
  side : String
  size : ℚ
  price : ℚ
  sided : formats.lower side = "buy" ∨ formats.lower side = "sell"
  positive : 0 < size ∧ 0 < price

namespace VenueTrade

variable {formats : TextFormats}

def payload (symbol : String) (trade : VenueTrade formats) : PnlFill :=
  { productId := some symbol
    size := some trade.size
    price := some trade.price
    side := some trade.side }

/-- The signed size of a trade. -/
def signed (trade : VenueTrade formats) : ℚ :=
  if formats.lower trade.side = "buy" then trade.size else -trade.size

def cash (trade : VenueTrade formats) : ℚ :=
  trade.signed * trade.price

/-- A fact that identifies a trade of a product. -/
structure IdentifiedBy (symbol : String) (trade : VenueTrade formats)
    (fact : FillFact) : Prop where
  symbol : fact.symbol = symbol
  side : fact.side = formats.lower trade.side
  quantity : fact.quantity = trade.size
  price : fact.price = trade.price

end VenueTrade

/-- Facts that identify trades of a product in time order, after a baseline that
is flat. -/
structure FlatHistory (formats : TextFormats) (symbol : String)
    (trades : List (VenueTrade formats)) where
  baseline : PositionBaseline
  facts : List FillFact
  about : baseline.symbol = symbol
  flat : baseline.quantity = 0
  identified : List.Forall₂ (VenueTrade.IdentifiedBy symbol) trades facts
  later : ∀ fact ∈ facts, baseline.effectiveAt < fact.executedAt
  ordered : facts.Pairwise fun earlier later =>
    earlier.executedAt < later.executedAt

/-- The service keeps exact books of some trades: the signed quantity is that of
the trades, and the profit is the worth at the mark less what was paid. -/
structure KeepsExactBooks (formats : TextFormats) (symbol : String)
    (trades : List (VenueTrade formats)) : Prop where
  quantity : ∀ mark,
    ((PnlService.fresh.processFills formats (trades.map (·.payload symbol))
      ).getPositionPnl symbol mark).signedQuantity =
        (trades.map VenueTrade.signed).sum
  worth : ∀ mark,
    let pnl := (PnlService.fresh.processFills formats
      (trades.map (·.payload symbol))).getPositionPnl symbol (some mark)
    pnl.realizedPnl + pnl.unrealizedPnl =
      mark * (trades.map VenueTrade.signed).sum -
        (trades.map VenueTrade.cash).sum
  projected : ∀ history : FlatHistory formats symbol trades, ∀ mark,
    let pnl := (PnlService.fresh.processFills formats
      (trades.map (·.payload symbol))).getPositionPnl symbol mark
    ∃ projection,
      projectFills symbol history.facts (some history.baseline) [] =
        .ok projection ∧
      projection.quantity = some pnl.signedQuantity ∧
      projection.realizedPnl = some pnl.realizedPnl ∧
      (pnl.quantity ≠ 0 → projection.entryPrice = pnl.entry)

def KeepsItsSign (signed : List ℚ) : Prop :=
  (∀ taken, 0 ≤ (signed.take taken).sum) ∨
    ∀ taken, (signed.take taken).sum ≤ 0

end GptTrader
