import Mathlib.Algebra.Order.Field.Rat
import Mathlib.Data.Fintype.Basic
import GptTrader.Coinbase.UserMessages
import GptTrader.Library.Coverage
import GptTrader.Python.TableFormats

/-!
# Fills without an orders store

Without an orders store `CoinbaseUserEventHandler` (`user_event_handler.py`) passes
every fill that it does not drop to `process_fill_for_pnl` with the size that it was
delivered with, also the fills of the WebSocket, whose sizes are cumulative.  Fills
are dropped by their keys, of which a bounded window is kept, and those of a backfill
also by the watermark.
-/

namespace GptTrader

/-- A handler without an orders store, the latest fill time that its running backfill
has seen, and the sizes that it passed on. -/
structure StorelessHandler where
  recentFillKeys : List String
  dedupeLimit : ℕ
  fillWatermark : Option DateTime
  latestFill : Option DateTime
  booked : List Decimal

namespace StorelessHandler

variable (context : OrdersContext)

/-- `_record_fill_key`, of a new key. -/
def recordFillKey (handler : StorelessHandler) (key : String) : StorelessHandler :=
  let keys := handler.recentFillKeys ++ [key]
  { handler with recentFillKeys := keys.drop (keys.length - handler.dedupeLimit) }

def processFillForPnl (handler : StorelessHandler) (size : Decimal) :
    Except StoreError StorelessHandler := do
  if ← UserEventHandler.isPositive size then
    .ok { handler with booked := handler.booked ++ [size] }
  else .ok handler

/-- `handle_fill`: `_update_orders_for_fill` returns the delivered size. -/
def handleFill (handler : StorelessHandler) (event : FillEvent) :
    StorelessHandler :=
  let key := UserEventHandler.fillEventKey context event
  if key ∈ handler.recentFillKeys then handler
  else
    let handler := handler.recordFillKey key
    match handler.processFillForPnl event.fillSize with
    | .ok handler => handler
    | .error _ => handler

/-- `_rest_fill_key`; the first two times are those of the key. -/
def restFillKey (fill : RestFill) : String :=
  let fillId := UserEventHandler.orElse fill.fillId fill.tradeId
  if fillId ≠ "" then "fill_id:" ++ fillId
  else
    "|".intercalate
      [fill.orderId, fill.clientOrderId, fill.productId, fill.price.getD "",
        fill.size.getD "",
        ((fill.times.take 2).filter (· ≠ "")).headD "", ""]

def coerceDecimal (text : Option String) : Decimal :=
  match text with
  | none => .finite 0
  | some text => (context.formats.parseDecimal text).getD (.finite 0)

/-- The fill is older than the last backfill. -/
def beforeWatermark (handler : StorelessHandler) (fill : RestFill) :
    Except PyError Bool :=
  match handler.fillWatermark, fill.timestamp context.formats with
  | some watermark, some moment => moment.lt watermark
  | _, _ => .ok false

/-- `latest_fill_ts`, after a fill. -/
def seeFill (handler : StorelessHandler) (fill : RestFill) : StorelessHandler :=
  match fill.timestamp context.formats with
  | none => handler
  | some moment =>
      match UserEventHandler.laterTime handler.latestFill moment with
      | .ok latest => { handler with latestFill := latest }
      | .error _ => handler

/-- `_apply_rest_fill`, in the loop of a backfill. -/
def applyRestFill (handler : StorelessHandler) (fill : RestFill) :
    StorelessHandler :=
  let key := restFillKey fill
  if key ∈ handler.recentFillKeys then handler
  else
    let handler := handler.recordFillKey key
    match handler.beforeWatermark context fill with
    | .error _ => handler
    | .ok true => handler.seeFill context fill
    | .ok false =>
        if fill.orderId = "" then handler.seeFill context fill
        else
          match handler.processFillForPnl (coerceDecimal context fill.size) with
          | .ok handler => handler.seeFill context fill
          | .error _ => handler

/-- The newest fill seen so far, before a backfill. -/
def startBackfill (handler : StorelessHandler) : StorelessHandler :=
  { handler with latestFill := handler.fillWatermark }

/-- The watermark moved to the newest fill. -/
def endBackfill (handler : StorelessHandler) : StorelessHandler :=
  match handler.latestFill with
  | none => handler
  | some latest =>
      match UserEventHandler.laterTime handler.fillWatermark latest with
      | .ok watermark => { handler with fillWatermark := watermark }
      | .error _ => handler

end StorelessHandler

/-! ## Deliveries of an order's executions -/

/-- The executions of an order, in the venue's order. -/
structure ExecutionHistory where
  count : ℕ
  size : Fin count → ℚ
  positive : ∀ execution, 0 < size execution

namespace ExecutionHistory

def first (history : ExecutionHistory) (reached : ℕ) : Finset (Fin history.count) :=
  Finset.univ.filter fun execution => execution.val < reached

/-- The quantity of these executions together. -/
def executed (history : ExecutionHistory) (parts : Finset (Fin history.count)) : ℚ :=
  parts.sum history.size

end ExecutionHistory

/-- What reaches the handler: a fill message with a cumulative size, or a part of a
backfill, whose fills are single executions. -/
inductive FillDelivery (context : OrdersContext) (history : ExecutionHistory) where
  | message (reached : ℕ) (event : FillEvent)
      (sized : event.fillSize = .finite (history.executed (history.first reached)))
  | backfillStarts
  | restFill (execution : Fin history.count) (fill : RestFill)
      (sized : StorelessHandler.coerceDecimal context fill.size =
        .finite (history.size execution))
  | backfillEnds

namespace FillDelivery

variable {context : OrdersContext} {history : ExecutionHistory}

/-- The executions a delivery reports. -/
def covers : FillDelivery context history → Finset (Fin history.count)
  | .message reached _ _ => history.first reached
  | .restFill execution _ _ => {execution}
  | _ => ∅

def deliver (handler : StorelessHandler) :
    FillDelivery context history → StorelessHandler
  | .message _ event _ => handler.handleFill context event
  | .backfillStarts => handler.startBackfill
  | .restFill _ fill _ => handler.applyRestFill context fill
  | .backfillEnds => handler.endBackfill

/-- The handler does not drop the delivery: its key is not in the window, and a fill
of a backfill has an order and is not older than the watermark. -/
def Taken (handler : StorelessHandler) : FillDelivery context history → Prop
  | .message _ event _ =>
      UserEventHandler.fillEventKey context event ∉ handler.recentFillKeys
  | .restFill _ fill _ =>
      StorelessHandler.restFillKey fill ∉ handler.recentFillKeys ∧
        handler.beforeWatermark context fill = .ok false ∧ fill.orderId ≠ ""
  | _ => False

end FillDelivery

/-- A handler, and what was delivered to it. -/
structure FillBooks (history : ExecutionHistory) where
  handler : StorelessHandler
  delivered : Finset (Fin history.count)

namespace FillBooks

variable {context : OrdersContext} {history : ExecutionHistory}

def step (books : FillBooks history) (delivery : FillDelivery context history) :
    FillBooks history :=
  { handler := delivery.deliver books.handler
    delivered := books.delivered ∪ delivery.covers }

/-- The value of a finite decimal. -/
def amount : Decimal → ℚ
  | .finite value => value
  | _ => 0

/-- What is booked is what was delivered, each once. -/
def Exact (books : FillBooks history) : Prop :=
  (books.handler.booked.map amount).sum = history.executed books.delivered

/-- What is taken was not covered before, and what is dropped was. -/
structure Sound (books : FillBooks history)
    (delivery : FillDelivery context history) : Prop where
  taken : delivery.Taken books.handler → Disjoint books.delivered delivery.covers
  dropped : ¬delivery.Taken books.handler → delivery.covers ⊆ books.delivered

end FillBooks

/-! ## What a delivery books -/

section Books

variable {context : OrdersContext} {history : ExecutionHistory}
variable {handler : StorelessHandler}

namespace StorelessHandler

theorem booked_seeFill (fill : RestFill) :
    (handler.seeFill context fill).booked = handler.booked := by
  unfold seeFill
  split
  · rfl
  · split <;> rfl

theorem booked_endBackfill : handler.endBackfill.booked = handler.booked := by
  unfold endBackfill
  split
  · rfl
  · split <;> rfl

theorem processFillForPnl_finite {size : ℚ} (nonneg : 0 ≤ size) :
    ∃ after, handler.processFillForPnl (.finite size) = .ok after ∧
      (after.booked.map FillBooks.amount).sum =
        (handler.booked.map FillBooks.amount).sum + size := by
  unfold processFillForPnl UserEventHandler.isPositive
  rw [Decimal.lt_finite]
  rcases nonneg.eq_or_lt with zero | positive
  · rw [← zero, decide_eq_false (lt_irrefl _)]
    exact ⟨handler, rfl, (add_zero _).symm⟩
  · rw [decide_eq_true positive]
    refine ⟨_, rfl, ?_⟩
    rw [List.map_append, List.sum_append, List.map_singleton, List.sum_singleton]
    rfl

end StorelessHandler

namespace FillDelivery

def Books (handler after : StorelessHandler)
    (delivery : FillDelivery context history) : Prop :=
  (delivery.Taken handler ∧
    (after.booked.map FillBooks.amount).sum =
      (handler.booked.map FillBooks.amount).sum +
        history.executed delivery.covers) ∨
  (¬delivery.Taken handler ∧
    (after.booked.map FillBooks.amount).sum =
      (handler.booked.map FillBooks.amount).sum)

theorem books_message (reached : ℕ) (event : FillEvent)
    (sized : event.fillSize =
      .finite (history.executed (history.first reached))) :
    Books handler (handler.handleFill context event)
      (.message reached event sized : FillDelivery context history) := by
  unfold StorelessHandler.handleFill
  dsimp only
  by_cases known :
      UserEventHandler.fillEventKey context event ∈ handler.recentFillKeys
  · rw [if_pos known]
    exact .inr ⟨fun taken => taken known, rfl⟩
  · have nonneg : 0 ≤ history.executed (history.first reached) :=
      Finset.sum_nonneg fun part _ => (history.positive part).le
    obtain ⟨after, passed, total⟩ :=
      StorelessHandler.processFillForPnl_finite nonneg
    rw [if_neg known, sized, passed]
    exact .inl ⟨known, total⟩

theorem books_restFill (execution : Fin history.count) (fill : RestFill)
    (sized : StorelessHandler.coerceDecimal context fill.size =
      .finite (history.size execution)) :
    Books handler (handler.applyRestFill context fill)
      (.restFill execution fill sized : FillDelivery context history) := by
  have same : (handler.recordFillKey (StorelessHandler.restFillKey fill)).beforeWatermark
      context fill = handler.beforeWatermark context fill := rfl
  unfold StorelessHandler.applyRestFill
  dsimp only
  rw [same]
  by_cases known : StorelessHandler.restFillKey fill ∈ handler.recentFillKeys
  · rw [if_pos known]
    exact .inr ⟨fun taken => taken.1 known, rfl⟩
  · rw [if_neg known]
    cases compared : handler.beforeWatermark context fill with
    | error error =>
        refine .inr ⟨fun taken => ?_, rfl⟩
        rw [taken.2.1] at compared
        cases compared
    | ok older =>
        cases older with
        | true =>
            refine .inr ⟨fun taken => ?_, ?_⟩
            · rw [taken.2.1] at compared
              cases compared
            · dsimp only
              rw [StorelessHandler.booked_seeFill]
              rfl
        | false =>
            dsimp only
            by_cases blank : fill.orderId = ""
            · rw [if_pos blank]
              refine .inr ⟨fun taken => taken.2.2 blank, ?_⟩
              rw [StorelessHandler.booked_seeFill]
              rfl
            · obtain ⟨after, passed, total⟩ :=
                StorelessHandler.processFillForPnl_finite
                  (history.positive execution).le
              rw [if_neg blank, sized, passed]
              refine .inl ⟨⟨known, compared, blank⟩, ?_⟩
              dsimp only
              rw [StorelessHandler.booked_seeFill, total]
              show _ = _ + Finset.sum {execution} history.size
              rw [Finset.sum_singleton]
              rfl

/-- A delivery that is taken is booked with the quantity it covers, and one that is
dropped is not booked. -/
theorem books_deliver (delivery : FillDelivery context history) :
    Books handler (delivery.deliver handler) delivery := by
  cases delivery with
  | message reached event sized => exact books_message reached event sized
  | backfillStarts => exact .inr ⟨id, rfl⟩
  | restFill execution fill sized => exact books_restFill execution fill sized
  | backfillEnds =>
      refine .inr ⟨id, ?_⟩
      show (handler.endBackfill.booked.map FillBooks.amount).sum = _
      rw [StorelessHandler.booked_endBackfill]

end FillDelivery

theorem FillBooks.exact_step_iff (books : FillBooks history)
    (delivery : FillDelivery context history) (exact : books.Exact) :
    (books.step delivery).Exact ↔ books.Sound delivery := by
  have each := history.positive
  show (((delivery.deliver books.handler).booked.map FillBooks.amount).sum =
    history.executed (books.delivered ∪ delivery.covers)) ↔ _
  rcases FillDelivery.books_deliver delivery with
    ⟨taken, total⟩ | ⟨dropped, total⟩
  · rw [total, show (books.handler.booked.map FillBooks.amount).sum = _ from exact]
    constructor
    · intro same
      exact
        { taken := fun _ =>
            (Coverage.taken_exact_iff each books.delivered delivery.covers).mp same
          dropped := fun dropped => absurd taken dropped }
    · intro sound
      exact (Coverage.taken_exact_iff each books.delivered delivery.covers).mpr
        (sound.taken taken)
  · rw [total, show (books.handler.booked.map FillBooks.amount).sum = _ from exact]
    constructor
    · intro same
      exact
        { taken := fun taken => absurd taken dropped
          dropped := fun _ =>
            (Coverage.dropped_exact_iff each books.delivered delivery.covers).mp
              same }
    · intro sound
      exact (Coverage.dropped_exact_iff each books.delivered delivery.covers).mpr
        (sound.dropped dropped)

end Books

def StorelessHandler.started (recentFillKeys : List String) (dedupeLimit : ℕ)
    (fillWatermark : Option DateTime) : StorelessHandler :=
  { recentFillKeys := recentFillKeys
    dedupeLimit := dedupeLimit
    fillWatermark := fillWatermark
    latestFill := none
    booked := [] }

def FillBooks.after {context : OrdersContext} {history : ExecutionHistory}
    (handler : StorelessHandler) (deliveries : List (FillDelivery context history)) :
    FillBooks history :=
  deliveries.foldl FillBooks.step { handler := handler, delivered := ∅ }

/-- Without an orders store each executed quantity is booked once exactly when every
delivery that is taken covers only new executions and every dropped one none. -/
theorem storeless_fills_booked_once_iff (context : OrdersContext)
    (history : ExecutionHistory) (recentFillKeys : List String) (dedupeLimit : ℕ)
    (fillWatermark : Option DateTime)
    (deliveries : List (FillDelivery context history)) :
    (∀ earlier, earlier <+: deliveries →
      (FillBooks.after (.started recentFillKeys dedupeLimit fillWatermark)
        earlier).Exact) ↔
    ∀ earlier delivery, earlier ++ [delivery] <+: deliveries →
      (FillBooks.after (.started recentFillKeys dedupeLimit fillWatermark)
        earlier).Sound delivery := by
  apply every_prefix_iff
  · rfl
  · exact fun books delivery exact => books.exact_step_iff delivery exact

def twoCoins : ExecutionHistory where
  count := 2
  size _ := 1
  positive _ := one_pos

def coinContext : OrdersContext :=
  { formats := tableFormats
      { entries := [("1", .finite 1), ("2", .finite 2), ("100", .finite 100)]
        nodup := by decide
        unmarked := by decide }
      { entries := [("2026-01-01T00:00:00+00:00", .utc 0)]
        nodup := Spelling.newYear_nodup
        unmarked := Spelling.newYear_unmarked }
    digest := fun _ => "digest"
    observationDigest := fun _ => "digest" }

def coinMessage (size : ℚ) (sequence : ℤ) : FillEvent :=
  { orderId := "o1"
    clientOrderId := "c1"
    productId := "BTC-USD"
    side := "BUY"
    fillPrice := .finite 100
    fillSize := .finite size
    sequence := some sequence
    timestamp := some (.utc 0) }

/-- The two messages of a partial and of the whole fill book three coins. -/
theorem two_messages_book_three_coins :
    ¬(FillBooks.after (.started [] 1000 none)
      [(.message 1 (coinMessage 1 1) (by decide +kernel) :
          FillDelivery coinContext twoCoins),
        .message 2 (coinMessage 2 2) (by decide +kernel)]).Exact := by
  unfold FillBooks.Exact
  decide +kernel

end GptTrader
