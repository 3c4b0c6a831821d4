import GptTrader.Backtesting.MarkedPositions

/-!
# Funding of positions

`FundingPnLTracker` of `backtesting/simulation/funding_tracker.py`, `process_funding` of
the simulated broker and `FundingProcessor` of `backtesting/engine/bar_runner.py`.  Times
are in microseconds.  The funding of one symbol depends on three values, and a poll
moves them by the processor's gate and then by the tracker's.
-/

namespace GptTrader

def hoursIn (span : ℤ) : ℚ :=
  (span : ℚ) / 3600000000

theorem hoursIn_zero : hoursIn 0 = 0 := by
  simp [hoursIn]

theorem hoursIn_nonneg {span : ℤ} (nonneg : 0 ≤ span) : 0 ≤ hoursIn span := by
  unfold hoursIn
  positivity

theorem hoursIn_pos {span : ℤ} (positive : 0 < span) : 0 < hoursIn span := by
  unfold hoursIn
  positivity

theorem hoursIn_add (first second : ℤ) :
    hoursIn (first + second) = hoursIn first + hoursIn second := by
  unfold hoursIn
  push_cast
  exact add_div _ _ _

theorem hoursIn_through (first middle last : ℤ) :
    hoursIn (last - first) = hoursIn (middle - first) + hoursIn (last - middle) := by
  rw [← hoursIn_add]
  congr 1
  omega

/-! ## The tracker -/

/-- A settled payment. -/
structure FundingEvent where
  symbol : String
  timestamp : ℤ
  amount : ℚ

/-- `FundingPnLTracker`. -/
structure FundingTracker where
  accrualIntervalHours : ℕ
  settlementIntervalHours : ℕ
  accruedFunding : Dict String ℚ
  lastAccrualTs : Dict String ℤ
  lastSettlementTs : Dict String ℤ
  totalFundingPaid : Dict String ℚ
  fundingEvents : List FundingEvent

namespace FundingTracker

def fresh (accrualIntervalHours settlementIntervalHours : ℕ) : FundingTracker :=
  { accrualIntervalHours := accrualIntervalHours
    settlementIntervalHours := settlementIntervalHours
    accruedFunding := .empty
    lastAccrualTs := .empty
    lastSettlementTs := .empty
    totalFundingPaid := .empty
    fundingEvents := [] }

/-- Funding accrued since the last settlement. -/
def getAccrued (tracker : FundingTracker) (symbol : String) : ℚ :=
  (tracker.accruedFunding.get? symbol).getD 0

/-- Funding settled so far. -/
def getTotalPaid (tracker : FundingTracker) (symbol : String) : ℚ :=
  (tracker.totalFundingPaid.get? symbol).getD 0

/-- `accrue`: what is accrued, and the tracker after it.  The first call for a symbol
sets all its entries. -/
def accrue (tracker : FundingTracker) (symbol : String)
    (positionSize markPrice fundingRate8h : ℚ) (currentTime : ℤ) :
    ℚ × FundingTracker :=
  match tracker.lastAccrualTs.get? symbol with
  | none =>
      (0,
        { tracker with
          lastAccrualTs := tracker.lastAccrualTs.set symbol currentTime
          accruedFunding := tracker.accruedFunding.set symbol 0
          totalFundingPaid := tracker.totalFundingPaid.set symbol 0 })
  | some last =>
      if hoursIn (currentTime - last) < tracker.accrualIntervalHours then
        (0, tracker)
      else
        let hourlyRate := fundingRate8h / 8
        let intervalRate := hourlyRate * tracker.accrualIntervalHours
        let fundingPayment := positionSize * markPrice * intervalRate
        (fundingPayment,
          { tracker with
            accruedFunding := tracker.accruedFunding.set symbol
              (tracker.getAccrued symbol + fundingPayment)
            lastAccrualTs := tracker.lastAccrualTs.set symbol currentTime })

/-- The settlement interval has passed. -/
def shouldSettle (tracker : FundingTracker) (currentTime : ℤ) (symbol : String) :
    Bool :=
  match tracker.lastSettlementTs.get? symbol with
  | none => true
  | some last =>
      decide (tracker.settlementIntervalHours ≤ hoursIn (currentTime - last))

/-- `settle`: what is settled, and the tracker after it. -/
def settle (tracker : FundingTracker) (symbol : String) (currentTime : ℤ) :
    ℚ × FundingTracker :=
  match tracker.accruedFunding.get? symbol with
  | none => (0, tracker)
  | some settled =>
      if tracker.shouldSettle currentTime symbol then
        (settled,
          { tracker with
            accruedFunding := tracker.accruedFunding.set symbol 0
            lastSettlementTs := tracker.lastSettlementTs.set symbol currentTime
            totalFundingPaid := tracker.totalFundingPaid.set symbol
              (tracker.getTotalPaid symbol + settled)
            fundingEvents := tracker.fundingEvents ++
              [{ symbol := symbol, timestamp := currentTime, amount := settled }] })
      else (0, tracker)

/-- Accrued and settled funding together. -/
def total (tracker : FundingTracker) (symbol : String) : ℚ :=
  tracker.getAccrued symbol + tracker.getTotalPaid symbol

end FundingTracker

/-! ## The broker and the processor -/

/-- A broker with its funding tracker. -/
structure FundedBroker where
  broker : SimulatedBroker
  tracker : FundingTracker

namespace SimulatedBroker

def getMarkPrice (broker : SimulatedBroker) (symbol : String) : Option ℚ :=
  match broker.currentQuote.get? symbol with
  | some quote => some quote.last
  | none => (broker.currentBar.get? symbol).map PriceBar.close

/-- `get_mark_price(symbol) or position.mark_price`. -/
def fundingMark (broker : SimulatedBroker) (symbol : String)
    (position : SimulatedPosition) : ℚ :=
  match broker.getMarkPrice symbol with
  | none => position.markPrice
  | some mark => if mark = 0 then position.markPrice else mark

end SimulatedBroker

namespace FundedBroker

def processFunding (funded : FundedBroker) (symbol : String)
    (fundingRate8h : ℚ) : ℚ × FundedBroker :=
  match funded.broker.simulationTime with
  | none => (0, funded)
  | some currentTime =>
      match funded.broker.positions.get? symbol with
      | none => (0, funded)
      | some position =>
          let mark := funded.broker.fundingMark symbol position
          let (funding, tracker) := funded.tracker.accrue symbol position.quantity
            mark fundingRate8h currentTime
          if tracker.shouldSettle currentTime symbol then
            let (settled, tracker) := tracker.settle symbol currentTime
            (funding,
              { broker := funded.broker.settleFunding settled, tracker := tracker })
          else (funding, { funded with tracker := tracker })

end FundedBroker

/-- `FundingProcessor`, whose rate provider is a parameter of its methods. -/
structure FundingProcessor where
  accrualIntervalHours : ℕ
  enabled : Bool
  lastFundingTime : Dict String ℤ
  totalFundingProcessed : ℚ

namespace FundingProcessor

def fresh (accrualIntervalHours : ℕ) (enabled : Bool) : FundingProcessor :=
  { accrualIntervalHours := accrualIntervalHours
    enabled := enabled
    lastFundingTime := .empty
    totalFundingProcessed := 0 }

/-- The processing interval has passed. -/
def shouldProcess (processor : FundingProcessor) (symbol : String)
    (currentTime : ℤ) : Bool :=
  processor.enabled &&
    match processor.lastFundingTime.get? symbol with
    | none => true
    | some last =>
        decide (processor.accrualIntervalHours ≤ hoursIn (currentTime - last))

/-- The body of the loop of `process_funding`, with the total so far. -/
def processSymbol (rates : String → ℤ → Option ℚ) (currentTime : ℤ)
    (state : FundingProcessor × FundedBroker × ℚ) (symbol : String) :
    FundingProcessor × FundedBroker × ℚ :=
  let (processor, funded, totalFunding) := state
  if processor.shouldProcess symbol currentTime then
    match rates symbol currentTime with
    | none => state
    | some rate =>
        let (funding, funded) := funded.processFunding symbol rate
        ({ processor with
            lastFundingTime := processor.lastFundingTime.set symbol currentTime },
          funded, totalFunding + funding)
  else state

def processFunding (processor : FundingProcessor)
    (rates : String → ℤ → Option ℚ) (funded : FundedBroker) (currentTime : ℤ)
    (symbols : List String) : ℚ × FundingProcessor × FundedBroker :=
  if processor.enabled then
    let (processor, funded, totalFunding) :=
      symbols.foldl (processSymbol rates currentTime) (processor, funded, 0)
    (totalFunding,
      { processor with
        totalFundingProcessed := processor.totalFundingProcessed + totalFunding },
      funded)
  else (0, processor, funded)

end FundingProcessor

/-! ## Polls -/

/-- A call of `process_funding` at the simulation time of the broker. -/
structure FundingPoll where
  broker : SimulatedBroker
  time : ℤ
  clock : broker.simulationTime = some time
  symbols : List String

/-- What the processor and the tracker keep from poll to poll. -/
structure FundingState where
  processor : FundingProcessor
  tracker : FundingTracker

namespace FundingState

def poll (state : FundingState) (rates : String → ℤ → Option ℚ)
    (poll : FundingPoll) : FundingState :=
  let after := state.processor.processFunding rates
    { broker := poll.broker, tracker := state.tracker } poll.time poll.symbols
  { processor := after.2.1, tracker := after.2.2.tracker }

end FundingState

/-- The size of a position that a poll sees and the mark it is charged at. -/
structure HeldPosition where
  size : ℚ
  mark : ℚ
  deriving DecidableEq

def SimulatedBroker.heldPosition (broker : SimulatedBroker) (symbol : String) :
    Option HeldPosition :=
  (broker.positions.get? symbol).map fun position =>
    { size := position.quantity, mark := broker.fundingMark symbol position }

/-! ## The funding of one symbol -/

/-- What the funding of one symbol depends on, and what it is. -/
structure SymbolFunding where
  lastFunding : Option ℤ
  lastAccrual : Option ℤ
  total : ℚ
  deriving DecidableEq

/-- The intervals of the processor and of the tracker. -/
structure FundingIntervals where
  enabled : Bool
  gate : ℕ
  accrual : ℕ

namespace SymbolFunding

def Due (interval : ℕ) (last : Option ℤ) (time : ℤ) : Prop :=
  ∀ earlier ∈ last, (interval : ℚ) ≤ hoursIn (time - earlier)

instance (interval : ℕ) (last : Option ℤ) (time : ℤ) :
    Decidable (Due interval last time) :=
  inferInstanceAs (Decidable (∀ earlier ∈ last, _))

def accrue (funding : SymbolFunding) (interval : ℕ) (time : ℤ) (rate : ℚ)
    (held : HeldPosition) : SymbolFunding :=
  match funding.lastAccrual with
  | none => { funding with lastAccrual := some time }
  | some last =>
      if (interval : ℚ) ≤ hoursIn (time - last) then
        { funding with
          lastAccrual := some time
          total := funding.total + held.size * held.mark * (rate / 8 * interval) }
      else funding

def poll (funding : SymbolFunding) (intervals : FundingIntervals) (time : ℤ)
    (rate : Option ℚ) (held : Option HeldPosition) : SymbolFunding :=
  if intervals.enabled = true ∧ Due intervals.gate funding.lastFunding time then
    match rate with
    | none => funding
    | some rate =>
        let polled := { funding with lastFunding := some time }
        match held with
        | none => polled
        | some held => polled.accrue intervals.accrual time rate held
  else funding

end SymbolFunding

/-! ## The tracker moves one symbol -/

namespace FundingTracker

/-- A symbol never accrued owes nothing. -/
def Started (tracker : FundingTracker) : Prop :=
  ∀ symbol, tracker.lastAccrualTs.get? symbol = none → tracker.total symbol = 0

theorem fresh_started (accrual settlement : ℕ) :
    (fresh accrual settlement).Started := by
  intro symbol first
  exact add_zero 0

/-- Two trackers agree on what was accrued, settled or not, and when. -/
structure Agree (tracker other : FundingTracker) (symbol : String) : Prop where
  lastAccrual : tracker.lastAccrualTs.get? symbol = other.lastAccrualTs.get? symbol
  total : tracker.total symbol = other.total symbol

theorem settle_agree (tracker : FundingTracker) (symbol : String)
    (currentTime : ℤ) (other : String) :
    Agree (tracker.settle symbol currentTime).2 tracker other := by
  unfold settle
  split
  · exact ⟨rfl, rfl⟩
  next settled found =>
    split
    · refine ⟨rfl, ?_⟩
      by_cases same : other = symbol
      · subst same
        simp only [total, getAccrued, getTotalPaid, Dict.get?_set_self,
          Option.getD_some, found]
        exact (zero_add _).trans (add_comm _ _)
      · simp only [total, getAccrued, getTotalPaid, Dict.get?_set_of_ne _ _ same]
    · exact ⟨rfl, rfl⟩

theorem settle_accrualIntervalHours (tracker : FundingTracker) (symbol : String)
    (currentTime : ℤ) :
    (tracker.settle symbol currentTime).2.accrualIntervalHours =
      tracker.accrualIntervalHours := by
  unfold settle
  split
  · rfl
  · split
    · rfl
    · rfl

theorem accrue_agree_of_ne (tracker : FundingTracker) {symbol other : String}
    (differs : other ≠ symbol) (size mark rate : ℚ) (currentTime : ℤ) :
    Agree (tracker.accrue symbol size mark rate currentTime).2 tracker other := by
  unfold accrue
  split
  · constructor
    · exact Dict.get?_set_of_ne _ _ differs
    · simp only [total, getAccrued, getTotalPaid, Dict.get?_set_of_ne _ _ differs]
  next last found =>
    split
    · exact ⟨rfl, rfl⟩
    · constructor
      · exact Dict.get?_set_of_ne _ _ differs
      · simp only [total, getAccrued, getTotalPaid,
          Dict.get?_set_of_ne _ _ differs]

theorem accrue_accrualIntervalHours (tracker : FundingTracker) (symbol : String)
    (size mark rate : ℚ) (currentTime : ℤ) :
    (tracker.accrue symbol size mark rate currentTime).2.accrualIntervalHours =
      tracker.accrualIntervalHours := by
  unfold accrue
  split
  · rfl
  · split
    · rfl
    · rfl

end FundingTracker

namespace FundingState

def funding (state : FundingState) (symbol : String) : SymbolFunding :=
  { lastFunding := state.processor.lastFundingTime.get? symbol
    lastAccrual := state.tracker.lastAccrualTs.get? symbol
    total := state.tracker.total symbol }

def intervals (state : FundingState) : FundingIntervals :=
  { enabled := state.processor.enabled
    gate := state.processor.accrualIntervalHours
    accrual := state.tracker.accrualIntervalHours }

end FundingState

theorem FundingTracker.accrue_funding (processor : FundingProcessor)
    (tracker : FundingTracker) (started : tracker.Started) (symbol : String)
    (held : HeldPosition) (rate : ℚ) (currentTime : ℤ) :
    FundingState.funding
        ⟨processor, (tracker.accrue symbol held.size held.mark rate currentTime).2⟩
        symbol =
      (FundingState.funding ⟨processor, tracker⟩ symbol).accrue
        tracker.accrualIntervalHours currentTime rate held := by
  unfold FundingTracker.accrue SymbolFunding.accrue FundingState.funding
  dsimp only
  cases found : tracker.lastAccrualTs.get? symbol with
  | none =>
      simp only [FundingTracker.total, FundingTracker.getAccrued,
        FundingTracker.getTotalPaid, Dict.get?_set_self, Option.getD_some]
      have nothing := started symbol found
      unfold FundingTracker.total FundingTracker.getAccrued
        FundingTracker.getTotalPaid at nothing
      rw [nothing, add_zero]
  | some last =>
      by_cases due : (tracker.accrualIntervalHours : ℚ) ≤ hoursIn (currentTime - last)
      · simp only [if_pos due, if_neg (not_lt.mpr due), FundingTracker.total,
          FundingTracker.getAccrued, FundingTracker.getTotalPaid,
          Dict.get?_set_self, Option.getD_some]
        congr 1
        ring
      · simp only [if_neg due, if_pos (not_le.mp due), found]

theorem FundingTracker.Started.of_agree {tracker other : FundingTracker}
    (started : other.Started) (agree : ∀ symbol, tracker.Agree other symbol) :
    tracker.Started := by
  intro symbol first
  rw [(agree symbol).lastAccrual] at first
  rw [(agree symbol).total]
  exact started symbol first

theorem FundingTracker.Started.accrue {tracker : FundingTracker}
    (started : tracker.Started) (symbol : String) (size mark rate : ℚ)
    (currentTime : ℤ) :
    (tracker.accrue symbol size mark rate currentTime).2.Started := by
  intro other first
  by_cases same : other = symbol
  · subst same
    unfold FundingTracker.accrue at first
    split at first
    · rw [Dict.get?_set_self] at first
      cases first
    next last found =>
      split at first
      · rw [found] at first
        cases first
      · rw [Dict.get?_set_self] at first
        cases first
  · have agree := tracker.accrue_agree_of_ne same size mark rate currentTime
    rw [agree.lastAccrual] at first
    rw [agree.total]
    exact started other first

/-! ## The loop moves each symbol it names -/

namespace FundingState

theorem funding_congr {processor : FundingProcessor}
    {tracker other : FundingTracker} {symbol : String}
    (agree : tracker.Agree other symbol) :
    funding ⟨processor, tracker⟩ symbol = funding ⟨processor, other⟩ symbol := by
  unfold funding
  rw [agree.lastAccrual, agree.total]

end FundingState

namespace FundedBroker

/-- What the funding of one symbol does to a broker with a simulation time. -/
structure Funded (before after : FundedBroker) (symbol : String) (rate : ℚ)
    (time : ℤ) : Prop where
  broker : ∃ usdc, after.broker = { before.broker with usdc := usdc }
  interval :
    after.tracker.accrualIntervalHours = before.tracker.accrualIntervalHours
  started : after.tracker.Started
  moved : ∀ processor : FundingProcessor,
    FundingState.funding ⟨processor, after.tracker⟩ symbol =
      match before.broker.heldPosition symbol with
      | none => FundingState.funding ⟨processor, before.tracker⟩ symbol
      | some held =>
          (FundingState.funding ⟨processor, before.tracker⟩ symbol).accrue
            before.tracker.accrualIntervalHours time rate held
  others : ∀ other, other ≠ symbol → after.tracker.Agree before.tracker other

theorem processFunding_funded (funded : FundedBroker) (symbol : String) (rate : ℚ)
    {time : ℤ} (clock : funded.broker.simulationTime = some time)
    (started : funded.tracker.Started) :
    Funded funded (funded.processFunding symbol rate).2 symbol rate time := by
  unfold processFunding
  simp only [clock]
  cases found : funded.broker.positions.get? symbol with
  | none =>
      have unseen : funded.broker.heldPosition symbol = none := by
        unfold SimulatedBroker.heldPosition
        rw [found]
        rfl
      refine ⟨⟨_, rfl⟩, rfl, started, ?_, fun other _ => ⟨rfl, rfl⟩⟩
      intro processor
      rw [unseen]
  | some position =>
      have seen : funded.broker.heldPosition symbol =
          some ⟨position.quantity, funded.broker.fundingMark symbol position⟩ := by
        unfold SimulatedBroker.heldPosition
        rw [found]
        rfl
      have kept := started.accrue symbol position.quantity
        (funded.broker.fundingMark symbol position) rate time
      have interval := funded.tracker.accrue_accrualIntervalHours symbol
        position.quantity (funded.broker.fundingMark symbol position) rate time
      have own := fun processor => funded.tracker.accrue_funding processor started
        symbol ⟨position.quantity, funded.broker.fundingMark symbol position⟩ rate
        time
      have others := fun other (differs : other ≠ symbol) =>
        funded.tracker.accrue_agree_of_ne differs position.quantity
          (funded.broker.fundingMark symbol position) rate time
      dsimp only
      generalize funded.tracker.accrue symbol position.quantity
        (funded.broker.fundingMark symbol position) rate time = accrued
        at kept interval own others ⊢
      split
      · have agree := accrued.2.settle_agree symbol time
        refine ⟨⟨_, rfl⟩, ?_, kept.of_agree agree, ?_, ?_⟩
        · exact (accrued.2.settle_accrualIntervalHours symbol time).trans interval
        · intro processor
          rw [seen]
          exact (FundingState.funding_congr (agree symbol)).trans (own processor)
        · intro other differs
          have first := agree other
          have second := others other differs
          exact ⟨first.lastAccrual.trans second.lastAccrual,
            first.total.trans second.total⟩
      · refine ⟨⟨_, rfl⟩, interval, kept, ?_, others⟩
        intro processor
        rw [seen]
        exact own processor

end FundedBroker

namespace SymbolFunding

theorem accrue_stamped {funding : SymbolFunding} (interval : ℕ) {time : ℤ}
    (rate : ℚ) (held : HeldPosition) (stamped : funding.lastAccrual = some time) :
    funding.accrue interval time rate held = funding := by
  obtain ⟨lastFunding, lastAccrual, total⟩ := funding
  dsimp only at stamped
  subst stamped
  unfold accrue
  dsimp only
  split
  next due =>
    rw [sub_self, hoursIn_zero] at due
    have nothing : (interval : ℚ) = 0 := le_antisymm due (Nat.cast_nonneg interval)
    rw [nothing, mul_zero, mul_zero, add_zero]
  · rfl

theorem accrue_lastFunding (funding : SymbolFunding) (interval : ℕ) (time : ℤ)
    (rate : ℚ) (held : HeldPosition) :
    (funding.accrue interval time rate held).lastFunding = funding.lastFunding := by
  unfold accrue
  split
  · rfl
  · split
    · rfl
    · rfl

theorem accrue_again (funding : SymbolFunding) (interval : ℕ) (time : ℤ) (rate : ℚ)
    (held : HeldPosition) :
    (funding.accrue interval time rate held).accrue interval time rate held =
      funding.accrue interval time rate held := by
  cases found : funding.lastAccrual with
  | none =>
      apply accrue_stamped
      simp only [accrue, found]
  | some last =>
      by_cases due : (interval : ℚ) ≤ hoursIn (time - last)
      · apply accrue_stamped
        simp only [accrue, found, if_pos due]
      · have unmoved : funding.accrue interval time rate held = funding := by
          simp only [accrue, found, if_neg due]
        rw [unmoved, unmoved]

theorem poll_again (funding : SymbolFunding) (intervals : FundingIntervals)
    (time : ℤ) (rate : Option ℚ) (held : Option HeldPosition) :
    (funding.poll intervals time rate held).poll intervals time rate held =
      funding.poll intervals time rate held := by
  by_cases opened : intervals.enabled = true ∧
      Due intervals.gate funding.lastFunding time
  · cases rate with
    | none =>
        have unmoved : funding.poll intervals time none held = funding := by
          simp only [poll, if_pos opened]
        rw [unmoved, unmoved]
    | some rate =>
        cases held with
        | none =>
            simp only [poll, if_pos opened, ite_self]
        | some held =>
            have polled : funding.poll intervals time (some rate) (some held) =
                accrue { funding with lastFunding := some time } intervals.accrual
                  time rate held := by
              simp only [poll, if_pos opened]
            rw [polled]
            have stamped := accrue_lastFunding
              { funding with lastFunding := some time } intervals.accrual time rate
              held
            have again := accrue_again { funding with lastFunding := some time }
              intervals.accrual time rate held
            generalize accrue { funding with lastFunding := some time }
              intervals.accrual time rate held = after at stamped again ⊢
            obtain ⟨lastFunding, lastAccrual, total⟩ := after
            dsimp only at stamped
            subst stamped
            simp only [poll, again, ite_self]
  · have unmoved : funding.poll intervals time rate held = funding := by
      simp only [poll, if_neg opened]
    rw [unmoved, unmoved]

theorem accrue_cases (funding : SymbolFunding) (interval : ℕ) (time : ℤ) (rate : ℚ)
    (held : HeldPosition) :
    funding.accrue interval time rate held = funding ∨
      funding.lastAccrual = none ∧
        funding.accrue interval time rate held =
          { funding with lastAccrual := some time } ∨
      ∃ last, funding.lastAccrual = some last ∧
        (interval : ℚ) ≤ hoursIn (time - last) ∧
        funding.accrue interval time rate held =
          { funding with
            lastAccrual := some time
            total := funding.total +
              held.size * held.mark * (rate / 8 * interval) } := by
  unfold accrue
  cases found : funding.lastAccrual with
  | none => exact .inr (.inl ⟨rfl, rfl⟩)
  | some last =>
      dsimp only
      split
      next due => exact .inr (.inr ⟨last, rfl, due, rfl⟩)
      · exact .inl rfl

/-- What a poll does: nothing to the funding, its first call, or one interval. -/
inductive Polled (funding : SymbolFunding) (interval : ℕ) (time : ℤ)
    (rate : Option ℚ) (held : Option HeldPosition) : SymbolFunding → Prop
  | idle (lastFunding : Option ℤ) :
      Polled funding interval time rate held
        { funding with lastFunding := lastFunding }
  | first (unset : funding.lastAccrual = none) (seen : held ≠ none) :
      Polled funding interval time rate held
        { funding with lastFunding := some time, lastAccrual := some time }
  | charged (last : ℤ) (rated : ℚ) (position : HeldPosition)
      (set : funding.lastAccrual = some last) (hasRate : rate = some rated)
      (seen : held = some position) (due : (interval : ℚ) ≤ hoursIn (time - last)) :
      Polled funding interval time rate held
        { lastFunding := some time
          lastAccrual := some time
          total := funding.total +
            position.size * position.mark * (rated / 8 * interval) }

theorem poll_polled (funding : SymbolFunding) (intervals : FundingIntervals)
    (time : ℤ) (rate : Option ℚ) (held : Option HeldPosition) :
    Polled funding intervals.accrual time rate held
      (funding.poll intervals time rate held) := by
  unfold poll
  split
  · cases rate with
    | none => exact .idle funding.lastFunding
    | some rated =>
        cases held with
        | none => exact .idle (some time)
        | some position =>
            dsimp only
            obtain same | ⟨unset, same⟩ | ⟨last, set, due, same⟩ := accrue_cases
              { funding with lastFunding := some time } intervals.accrual time rated
              position
            · rw [same]
              exact .idle (some time)
            · rw [same]
              exact .first unset (Option.some_ne_none position)
            · rw [same]
              exact .charged last rated position set rfl rfl due
  · exact .idle funding.lastFunding

end SymbolFunding

namespace FundingProcessor

def loopState (state : FundingProcessor × FundedBroker × ℚ) : FundingState :=
  { processor := state.1, tracker := state.2.1.tracker }

/-- What the loop does when it goes over some symbols. -/
structure Looped (rates : String → ℤ → Option ℚ) (time : ℤ)
    (symbols : List String) (before after : FundingProcessor × FundedBroker × ℚ) :
    Prop where
  broker : ∃ usdc, after.2.1.broker = { before.2.1.broker with usdc := usdc }
  intervals : (loopState after).intervals = (loopState before).intervals
  started : after.2.1.tracker.Started
  moved : ∀ symbol, (loopState after).funding symbol =
    if symbol ∈ symbols then
      ((loopState before).funding symbol).poll (loopState before).intervals time
        (rates symbol time) (before.2.1.broker.heldPosition symbol)
    else (loopState before).funding symbol

variable {rates : String → ℤ → Option ℚ} {time : ℤ}

variable (time) in
theorem shouldProcess_iff (processor : FundingProcessor) (tracker : FundingTracker)
    (symbol : String) :
    processor.shouldProcess symbol time = true ↔
      processor.enabled = true ∧
        SymbolFunding.Due processor.accrualIntervalHours
          (FundingState.funding ⟨processor, tracker⟩ symbol).lastFunding time := by
  unfold shouldProcess SymbolFunding.Due FundingState.funding
  rw [Bool.and_eq_true]
  apply and_congr_right'
  cases processor.lastFundingTime.get? symbol with
  | none => simp
  | some last => simp

theorem Looped.refl (before : FundingProcessor × FundedBroker × ℚ)
    (started : before.2.1.tracker.Started) : Looped rates time [] before before where
  broker := ⟨_, rfl⟩
  intervals := rfl
  started := started
  moved := by
    intro symbol
    rw [if_neg List.not_mem_nil]

theorem Looped.unmoved {before : FundingProcessor × FundedBroker × ℚ}
    (started : before.2.1.tracker.Started) {symbol : String}
    (same : ((loopState before).funding symbol).poll (loopState before).intervals
      time (rates symbol time) (before.2.1.broker.heldPosition symbol) =
        (loopState before).funding symbol) :
    Looped rates time [symbol] before before where
  broker := ⟨_, rfl⟩
  intervals := rfl
  started := started
  moved := by
    intro other
    split
    next member =>
      rw [List.mem_singleton] at member
      subst member
      exact same.symm
    · rfl

variable (rates) in
/-- One symbol of the loop is one poll of its own. -/
theorem processSymbol_looped (before : FundingProcessor × FundedBroker × ℚ)
    (symbol : String) (clock : before.2.1.broker.simulationTime = some time)
    (started : before.2.1.tracker.Started) :
    Looped rates time [symbol] before
      (processSymbol rates time before symbol) := by
  obtain ⟨processor, funded, totalFunding⟩ := before
  have opens := shouldProcess_iff time processor funded.tracker symbol
  unfold processSymbol
  dsimp only at clock started ⊢
  by_cases opened : processor.shouldProcess symbol time = true
  · rw [if_pos opened]
    cases rated : rates symbol time with
    | none =>
        apply Looped.unmoved started
        unfold SymbolFunding.poll
        rw [rated]
        exact ite_self _
    | some rate =>
        have moves := funded.processFunding_funded symbol rate clock started
        refine ⟨moves.broker, ?_, moves.started, ?_⟩
        · exact congrArg
            (FundingIntervals.mk processor.enabled processor.accrualIntervalHours)
            moves.interval
        · intro other
          by_cases same : other = symbol
          · subst same
            rw [if_pos (List.mem_singleton.mpr rfl)]
            have own := moves.moved { processor with
              lastFundingTime := processor.lastFundingTime.set other time }
            refine own.trans ?_
            have through : (loopState (processor, funded, totalFunding)).intervals.enabled
                  = true ∧
                SymbolFunding.Due
                  (loopState (processor, funded, totalFunding)).intervals.gate
                  ((loopState (processor, funded, totalFunding)).funding
                    other).lastFunding time :=
              opens.mp opened
            unfold SymbolFunding.poll
            rw [if_pos through, rated]
            have stamped : FundingState.funding
                ⟨{ processor with
                    lastFundingTime := processor.lastFundingTime.set other time },
                  funded.tracker⟩ other =
                { FundingState.funding ⟨processor, funded.tracker⟩ other with
                  lastFunding := some time } := by
              unfold FundingState.funding
              simp only [Dict.get?_set_self]
            rw [stamped]
            rfl
          · rw [if_neg (fun member => same (List.mem_singleton.mp member))]
            have agree := moves.others other same
            unfold FundingState.funding loopState
            simp only [Dict.get?_set_of_ne _ _ same, agree.lastAccrual, agree.total]
  · rw [if_neg opened]
    apply Looped.unmoved started
    unfold SymbolFunding.poll
    exact if_neg fun due => opened (opens.mpr due)

theorem Looped.trans {symbol : String} {symbols : List String}
    {before middle after : FundingProcessor × FundedBroker × ℚ}
    (first : Looped rates time [symbol] before middle)
    (rest : Looped rates time symbols middle after) :
    Looped rates time (symbol :: symbols) before after := by
  obtain ⟨usdc, kept⟩ := first.broker
  obtain ⟨later, keptLater⟩ := rest.broker
  have sees : ∀ other, middle.2.1.broker.heldPosition other =
      before.2.1.broker.heldPosition other := by
    intro other
    rw [kept]
    rfl
  refine ⟨⟨later, ?_⟩, rest.intervals.trans first.intervals, rest.started, ?_⟩
  · rw [keptLater, kept]
  · intro other
    rw [rest.moved other, first.moved other, first.intervals, sees other]
    by_cases now : other = symbol
    · subst now
      rw [if_pos List.mem_cons_self, if_pos List.mem_cons_self]
      split
      · exact SymbolFunding.poll_again _ _ _ _ _
      · rfl
    · rw [if_neg (fun member => now (List.mem_singleton.mp member))]
      simp only [List.mem_cons, now, false_or]

variable (rates) in
theorem loop_looped (symbols : List String)
    (before : FundingProcessor × FundedBroker × ℚ)
    (clock : before.2.1.broker.simulationTime = some time)
    (started : before.2.1.tracker.Started) :
    Looped rates time symbols before
      (symbols.foldl (processSymbol rates time) before) := by
  induction symbols generalizing before with
  | nil => exact Looped.refl before started
  | cons symbol symbols induction =>
      have first := processSymbol_looped rates before symbol clock started
      obtain ⟨usdc, kept⟩ := first.broker
      apply first.trans
      apply induction
      · rw [kept]
        exact clock
      · exact first.started

end FundingProcessor

namespace FundingState

variable (rates : String → ℤ → Option ℚ)

section

variable (state : FundingState) (poll : FundingPoll) (started : state.tracker.Started)

include state poll started

theorem poll_funding (symbol : String) :
    (state.poll rates poll).funding symbol =
      if symbol ∈ poll.symbols then
        (state.funding symbol).poll state.intervals poll.time
          (rates symbol poll.time) (poll.broker.heldPosition symbol)
      else state.funding symbol := by
  have looped := FundingProcessor.loop_looped rates poll.symbols
    (state.processor, ⟨poll.broker, state.tracker⟩, 0) poll.clock started
  unfold FundingState.poll FundingProcessor.processFunding
  by_cases enabled : state.processor.enabled = true
  · rw [if_pos enabled]
    exact looped.moved symbol
  · rw [if_neg enabled]
    split
    · unfold SymbolFunding.poll
      exact (if_neg fun opened => enabled opened.1).symm
    · rfl

theorem poll_intervals :
    (state.poll rates poll).intervals = state.intervals := by
  have looped := FundingProcessor.loop_looped rates poll.symbols
    (state.processor, ⟨poll.broker, state.tracker⟩, 0) poll.clock started
  unfold FundingState.poll FundingProcessor.processFunding
  split
  · exact looped.intervals
  · rfl

theorem poll_started : (state.poll rates poll).tracker.Started := by
  have looped := FundingProcessor.loop_looped rates poll.symbols
    (state.processor, ⟨poll.broker, state.tracker⟩, 0) poll.clock started
  unfold FundingState.poll FundingProcessor.processFunding
  split
  · exact looped.started
  · exact started

end

end FundingState

end GptTrader
