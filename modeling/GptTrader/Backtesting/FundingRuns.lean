import GptTrader.Backtesting.Funding

/-!
# Funding and the time a position is held

A poll that accrues charges one accrual interval, whatever time has passed since the
last one.  The account below charges the time the position was held instead, at the mark
of the poll that accrues it.  The two agree, up to an interval at each end of a holding,
as long as no poll comes later than an interval after the last accrual.  Which polls
accrue is read off a schedule of their own, made of the times of the polls, of whether a
position was held and of whether a rate was known.
-/

namespace GptTrader

/-! ## The polls that accrue -/

/-- When the last poll was let through for a symbol, and when one last accrued. -/
structure FundingSchedule where
  processed : Option ℤ
  accrued : Option ℤ
  deriving DecidableEq

namespace FundingSchedule

def fresh : FundingSchedule :=
  { processed := none
    accrued := none }

/-- A poll with a rate is let through an interval of the processor after the last one,
and accrues a held position an accrual interval after the last one that did. -/
def poll (schedule : FundingSchedule) (intervals : FundingIntervals) (time : ℤ)
    (rated held : Bool) : FundingSchedule :=
  if intervals.enabled = true ∧ rated = true ∧
      SymbolFunding.Due intervals.gate schedule.processed time then
    { processed := some time
      accrued :=
        if held = true ∧ SymbolFunding.Due intervals.accrual schedule.accrued time then
          some time
        else schedule.accrued }
  else schedule

end FundingSchedule

namespace SymbolFunding

/-- The schedule that the tracker and the processor keep. -/
def schedule (funding : SymbolFunding) : FundingSchedule :=
  { processed := funding.lastFunding
    accrued := funding.lastAccrual }

theorem poll_schedule (funding : SymbolFunding) (intervals : FundingIntervals)
    (time : ℤ) (rate : Option ℚ) (held : Option HeldPosition) :
    (funding.poll intervals time rate held).schedule =
      funding.schedule.poll intervals time rate.isSome held.isSome := by
  unfold poll FundingSchedule.poll schedule
  dsimp only
  by_cases opened : intervals.enabled = true ∧
      Due intervals.gate funding.lastFunding time
  · rw [if_pos opened]
    cases rate with
    | none => rw [if_neg (by simp)]
    | some rate =>
        rw [if_pos ⟨opened.1, rfl, opened.2⟩]
        cases held with
        | none => simp
        | some held =>
            simp only [Option.isSome_some, true_and]
            unfold accrue
            cases funding.lastAccrual with
            | none => simp [Due]
            | some last =>
                dsimp only
                by_cases due : (intervals.accrual : ℚ) ≤ hoursIn (time - last)
                · rw [if_pos due, if_pos (by simpa [Due] using due)]
                · rw [if_neg due, if_neg (by simpa [Due] using due)]
  · rw [if_neg opened, if_neg fun open_ => opened ⟨open_.1, open_.2.2⟩]

end SymbolFunding

/-! ## The time held -/

/-- The funding that a position should bear. -/
structure FundingAccount where
  size : Option ℚ
  /-- The time from which the position has been held without an accrual. -/
  since : ℤ
  /-- The time from which it has had its size, and what it was held for since the last
  accrual until then: its size times hours. -/
  sizedAt : ℤ
  exposure : ℚ
  /-- The position was charged since it was opened. -/
  charged : Bool
  /-- The time held until the last accrual, each part at the mark that accrued it. -/
  expected : ℚ
  /-- One accrual interval for the start of each holding that was charged. -/
  slack : ℚ

namespace FundingAccount

def fresh : FundingAccount :=
  { size := none
    since := 0
    sizedAt := 0
    exposure := 0
    charged := false
    expected := 0
    slack := 0 }

/-- Size times hours held, up to `time`. -/
def exposureAt (account : FundingAccount) (size : ℚ) (time : ℤ) : ℚ :=
  account.exposure + size * hoursIn (time - account.sizedAt)

def trade (account : FundingAccount) (time : ℤ) (size : Option ℚ) :
    FundingAccount :=
  match account.size with
  | none =>
      { account with
        size := size
        since := time
        sizedAt := time
        exposure := 0
        charged := false }
  | some old =>
      { account with
        size := size
        sizedAt := time
        exposure := account.exposureAt old time }

def charge (account : FundingAccount) (interval : ℕ) (size unit : ℚ) (time : ℤ) :
    FundingAccount :=
  { account with
    since := time
    sizedAt := time
    exposure := 0
    charged := true
    expected := account.expected + account.exposureAt size time * unit
    slack := if account.charged then account.slack
      else account.slack + |size * unit| * interval }

/-- The account after a poll, from the last accruals before and after it: the first
poll that accrues only starts the clock. -/
def poll (account : FundingAccount) (interval : ℕ) (unit : ℚ) (time : ℤ)
    (before after : Option ℤ) : FundingAccount :=
  match account.size with
  | none => account
  | some size =>
      if before ≠ none ∧ after ≠ before then account.charge interval size unit time
      else account

section

variable (account : FundingAccount) (interval : ℕ) (unit : ℚ) (time : ℤ)

theorem poll_unmoved (accrued : Option ℤ) :
    account.poll interval unit time accrued accrued = account := by
  unfold poll
  split
  · rfl
  · exact if_neg fun moved => moved.2 rfl

theorem poll_unset (after : Option ℤ) :
    account.poll interval unit time none after = account := by
  unfold poll
  split
  · rfl
  · exact if_neg fun moved => moved.1 rfl

theorem poll_moved {size : ℚ} {before after : Option ℤ}
    (held : account.size = some size) (set : before ≠ none)
    (moves : after ≠ before) :
    account.poll interval unit time before after =
      account.charge interval size unit time := by
  unfold poll
  rw [held]
  exact if_pos ⟨set, moves⟩

end

/-- The hours held that may be left without an accrual: an interval at the end of the
holding, and another one at its start. -/
def allowance (account : FundingAccount) (interval : ℕ) : ℚ :=
  if account.charged then interval else 2 * interval

/-- The charge comes within the allowance. -/
def Timely (account : FundingAccount) (interval : ℕ) (time : ℤ) : Prop :=
  account.size ≠ none → hoursIn (time - account.since) ≤ account.allowance interval

instance (account : FundingAccount) (interval : ℕ) (time : ℤ) :
    Decidable (account.Timely interval time) :=
  inferInstanceAs (Decidable (_ → _))

end FundingAccount

/-- The funding of one coin over an hour. -/
def FundingPoll.unit (poll : FundingPoll) (rates : String → ℤ → Option ℚ)
    (symbol : String) : ℚ :=
  match rates symbol poll.time, poll.broker.heldPosition symbol with
  | some rate, some held => held.mark * (rate / 8)
  | _, _ => 0

/-! ## Runs -/

/-- A state with the intervals it was made with, the schedule of the polls of one symbol
and the account of its position. -/
structure FundingRun where
  state : FundingState
  intervals : FundingIntervals
  schedule : FundingSchedule
  account : FundingAccount
  clock : ℤ

/-- What happens to a position: it changes, or funding is processed. -/
inductive FundingStep where
  | trade (time : ℤ) (size : Option ℚ)
  | poll (poll : FundingPoll)

namespace FundingRun

def interval (run : FundingRun) : ℕ :=
  run.intervals.accrual

def trade (run : FundingRun) (time : ℤ) (size : Option ℚ) : FundingRun :=
  { run with account := run.account.trade time size, clock := time }

def poll (run : FundingRun) (rates : String → ℤ → Option ℚ) (symbol : String)
    (poll : FundingPoll) : FundingRun :=
  let schedule :=
    if symbol ∈ poll.symbols then
      run.schedule.poll run.intervals poll.time (rates symbol poll.time).isSome
        run.account.size.isSome
    else run.schedule
  { run with
    state := run.state.poll rates poll
    schedule := schedule
    account := run.account.poll run.interval (poll.unit rates symbol) poll.time
      run.schedule.accrued schedule.accrued
    clock := poll.time }

/-- No more time than allowed was held without an accrual, and a position that stays
open gets another size at an accrual only. -/
def OnTime (run : FundingRun) : FundingStep → Prop
  | .trade time size =>
      run.account.Timely run.interval time ∧
        ∀ old ∈ run.account.size, ∀ new ∈ size, new ≠ old →
          time = run.account.since
  | .poll poll => run.account.Timely run.interval poll.time

instance (run : FundingRun) (step : FundingStep) : Decidable (run.OnTime step) :=
  match step with
  | .trade _ _ => inferInstanceAs (Decidable (_ ∧ ∀ old ∈ run.account.size, _))
  | .poll _ => inferInstanceAs (Decidable (FundingAccount.Timely _ _ _))

/-- The runs of a new processor and tracker whose steps meet a condition. -/
inductive Reached (rates : String → ℤ → Option ℚ) (symbol : String)
    (meets : FundingRun → FundingStep → Prop) : FundingRun → Prop
  | fresh (gate accrual settlement : ℕ) (enabled : Bool) (clock : ℤ) :
      Reached rates symbol meets
        { state :=
            { processor := .fresh gate enabled
              tracker := .fresh accrual settlement }
          intervals := { enabled := enabled, gate := gate, accrual := accrual }
          schedule := .fresh
          account := .fresh
          clock := clock }
  | trade {run : FundingRun} (before : Reached rates symbol meets run) (time : ℤ)
      (size : Option ℚ) (later : run.clock ≤ time)
      (met : meets run (.trade time size)) :
      Reached rates symbol meets (run.trade time size)
  | poll {run : FundingRun} (before : Reached rates symbol meets run)
      (poll : FundingPoll) (later : run.clock ≤ poll.time)
      (seen : (poll.broker.heldPosition symbol).map HeldPosition.size =
        run.account.size)
      (met : meets run (.poll poll)) :
      Reached rates symbol meets (run.poll rates symbol poll)

/-- The funding accrued and settled is that of the time held, up to an interval at
each end of a holding. -/
structure Accounted (run : FundingRun) (symbol : String) : Prop where
  total : |run.state.tracker.total symbol - run.account.expected| ≤
    run.account.slack
  timely : run.account.Timely run.interval run.clock

/-! ## What a run keeps -/

/-- What the account and the tracker have in common. -/
structure Aligned (run : FundingRun) (symbol : String) : Prop where
  started : run.state.tracker.Started
  intervals : run.state.intervals = run.intervals
  scheduled : (run.state.funding symbol).schedule = run.schedule
  held : run.account.size ≠ none → run.account.since ≤ run.clock
  charged : run.account.size ≠ none → run.account.charged = true →
    run.state.tracker.lastAccrualTs.get? symbol = some run.account.since
  accrued : ∀ last ∈ run.state.tracker.lastAccrualTs.get? symbol, last ≤ run.clock

variable {rates : String → ℤ → Option ℚ} {symbol : String} {run : FundingRun}

theorem Aligned.trade (aligned : run.Aligned symbol) {time : ℤ} (size : Option ℚ)
    (later : run.clock ≤ time) : (run.trade time size).Aligned symbol := by
  unfold FundingRun.trade FundingAccount.trade
  cases held : run.account.size with
  | none =>
      refine ⟨aligned.started, aligned.intervals, aligned.scheduled,
        fun _ => le_refl time, ?_, ?_⟩
      · intro _ charged
        cases charged
      · intro last found
        exact (aligned.accrued last found).trans later
  | some old =>
      have open_ : run.account.size ≠ none := by simp [held]
      refine ⟨aligned.started, aligned.intervals, aligned.scheduled, ?_, ?_, ?_⟩
      · intro _
        exact (aligned.held open_).trans later
      · intro _ charged
        exact aligned.charged open_ charged
      · intro last found
        exact (aligned.accrued last found).trans later

/-- What a poll does to the account and to the funding of the symbol. -/
inductive PollOutcome (run : FundingRun) (symbol : String) (unit : ℚ) (time : ℤ) :
    FundingAccount → Option ℤ → ℚ → Prop
  | idle : PollOutcome run symbol unit time run.account
      (run.state.tracker.lastAccrualTs.get? symbol) (run.state.tracker.total symbol)
  | first (unset : run.state.tracker.lastAccrualTs.get? symbol = none)
      (held : run.account.size ≠ none) :
      PollOutcome run symbol unit time run.account (some time)
        (run.state.tracker.total symbol)
  | charged (last : ℤ) (size : ℚ)
      (set : run.state.tracker.lastAccrualTs.get? symbol = some last)
      (held : run.account.size = some size)
      (due : run.interval ≤ hoursIn (time - last)) :
      PollOutcome run symbol unit time
        (run.account.charge run.interval size unit time) (some time)
        (run.state.tracker.total symbol + size * unit * run.interval)

variable (rates) in
/-- The schedule of the run stays the one that the tracker and the processor keep. -/
theorem Aligned.poll_scheduled (aligned : run.Aligned symbol) (poll : FundingPoll)
    (seen : (poll.broker.heldPosition symbol).map HeldPosition.size =
      run.account.size) :
    ((run.state.poll rates poll).funding symbol).schedule =
      (run.poll rates symbol poll).schedule := by
  rw [run.state.poll_funding rates poll aligned.started symbol]
  unfold FundingRun.poll
  dsimp only
  split
  · rw [SymbolFunding.poll_schedule, aligned.scheduled, aligned.intervals, ← seen,
      Option.isSome_map]
  · exact aligned.scheduled

variable (rates) in
/-- A poll charges the account what the tracker accrues. -/
theorem poll_outcome (run : FundingRun) (poll : FundingPoll)
    (aligned : run.Aligned symbol)
    (seen : (poll.broker.heldPosition symbol).map HeldPosition.size =
      run.account.size) :
    PollOutcome run symbol (poll.unit rates symbol) poll.time
      (run.poll rates symbol poll).account
      ((run.state.poll rates poll).tracker.lastAccrualTs.get? symbol)
      ((run.state.poll rates poll).tracker.total symbol) := by
  have moved := run.state.poll_funding rates poll aligned.started symbol
  have before : run.schedule.accrued =
      run.state.tracker.lastAccrualTs.get? symbol :=
    (congrArg FundingSchedule.accrued aligned.scheduled).symm
  have later : (run.poll rates symbol poll).schedule.accrued =
      ((run.state.poll rates poll).funding symbol).lastAccrual :=
    (congrArg FundingSchedule.accrued (aligned.poll_scheduled rates poll seen)).symm
  have interval : run.interval = run.state.intervals.accrual :=
    congrArg FundingIntervals.accrual aligned.intervals.symm
  have polled : SymbolFunding.Polled (run.state.funding symbol)
      run.state.intervals.accrual poll.time (rates symbol poll.time)
      (poll.broker.heldPosition symbol)
      ((run.state.poll rates poll).funding symbol) := by
    rw [moved]
    split
    · exact SymbolFunding.poll_polled _ _ _ _ _
    · exact .idle (run.state.funding symbol).lastFunding
  change PollOutcome _ _ _ _
    (run.account.poll run.interval (poll.unit rates symbol) poll.time
      run.schedule.accrued (run.poll rates symbol poll).schedule.accrued)
    ((run.state.poll rates poll).funding symbol).lastAccrual
    ((run.state.poll rates poll).funding symbol).total
  rw [before, later]
  generalize (run.state.poll rates poll).funding symbol = after at polled ⊢
  cases polled with
  | idle lastFunding =>
      have same : run.account.poll run.interval (poll.unit rates symbol) poll.time
          (run.state.tracker.lastAccrualTs.get? symbol)
          (run.state.funding symbol).lastAccrual = run.account :=
        run.account.poll_unmoved ..
      rw [same]
      exact .idle
  | first unset found =>
      have own : run.state.tracker.lastAccrualTs.get? symbol = none := unset
      have holds : run.account.size ≠ none := by
        rw [← seen]
        simpa using found
      rw [own, run.account.poll_unset]
      exact .first unset holds
  | charged last rated position set hasRate found due =>
      have own : run.state.tracker.lastAccrualTs.get? symbol = some last := set
      have held : run.account.size = some position.size := by
        rw [← seen, found]
        rfl
      have unit : poll.unit rates symbol = position.mark * (rated / 8) := by
        unfold FundingPoll.unit
        rw [hasRate, found]
      have amount : (run.state.funding symbol).total +
          position.size * position.mark * (rated / 8 * run.state.intervals.accrual) =
            run.state.tracker.total symbol +
              position.size * poll.unit rates symbol * run.interval := by
        rw [unit, interval]
        have same : position.size * position.mark *
            (rated / 8 * run.state.intervals.accrual) =
              position.size * (position.mark * (rated / 8)) *
                run.state.intervals.accrual := by
          ring
        exact congrArg _ same
      rw [← interval] at due
      rw [amount, own]
      by_cases moves : poll.time = last
      · -- a second poll at the time of an accrual, which an interval of nothing allows
        subst moves
        rw [run.account.poll_unmoved, ← own]
        rw [sub_self, hoursIn_zero] at due
        have nothing : (run.interval : ℚ) = 0 :=
          le_antisymm due (Nat.cast_nonneg _)
        rw [nothing, mul_zero, add_zero]
        exact .idle
      · have changes : some poll.time ≠ some last := fun same =>
          moves (Option.some.inj same)
        rw [run.account.poll_moved _ _ _ held (Option.some_ne_none last) changes]
        exact .charged last position.size own held due

/-- A poll keeps account and tracker aligned. -/
theorem Aligned.poll (aligned : run.Aligned symbol) (poll : FundingPoll)
    (later : run.clock ≤ poll.time)
    (seen : (poll.broker.heldPosition symbol).map HeldPosition.size =
      run.account.size) :
    (run.poll rates symbol poll).Aligned symbol := by
  have outcome := run.poll_outcome rates poll aligned seen
  have started := run.state.poll_started rates poll aligned.started
  have intervals := (run.state.poll_intervals rates poll aligned.started).trans
    aligned.intervals
  have scheduled := aligned.poll_scheduled rates poll seen
  suffices kept : (((run.poll rates symbol poll).account.size ≠ none →
        (run.poll rates symbol poll).account.since ≤ poll.time) ∧
      ((run.poll rates symbol poll).account.size ≠ none →
        (run.poll rates symbol poll).account.charged = true →
          (run.state.poll rates poll).tracker.lastAccrualTs.get? symbol =
            some (run.poll rates symbol poll).account.since)) ∧
      ∀ last ∈ (run.state.poll rates poll).tracker.lastAccrualTs.get? symbol,
        last ≤ poll.time from
    ⟨started, intervals, scheduled, kept.1.1, kept.1.2, kept.2⟩
  generalize (run.poll rates symbol poll).account = account at outcome ⊢
  generalize (run.state.poll rates poll).tracker.lastAccrualTs.get? symbol = accrual
    at outcome ⊢
  generalize (run.state.poll rates poll).tracker.total symbol = total at outcome
  cases outcome with
  | idle =>
      refine ⟨⟨fun held => (aligned.held held).trans later, aligned.charged⟩, ?_⟩
      intro last found
      exact (aligned.accrued last found).trans later
  | first unset held =>
      refine ⟨⟨fun held => (aligned.held held).trans later, ?_⟩, ?_⟩
      · intro held charged
        rw [aligned.charged held charged] at unset
        cases unset
      · intro last found
        cases found
        exact le_refl poll.time
  | charged last size set held due =>
      refine ⟨⟨fun _ => le_refl poll.time, fun _ _ => rfl⟩, ?_⟩
      intro last found
      cases found
      exact le_refl poll.time

theorem Reached.aligned {meets : FundingRun → FundingStep → Prop}
    (reached : Reached rates symbol meets run) : run.Aligned symbol := by
  induction reached with
  | fresh gate accrual settlement enabled clock =>
      exact ⟨FundingTracker.fresh_started accrual settlement, rfl, rfl,
        fun held => absurd rfl held, fun held => absurd rfl held,
        fun _ found => nomatch found⟩
  | trade before time size later met aligned => exact aligned.trade size later
  | poll before poll later seen met aligned => exact aligned.poll poll later seen

/-! ## Runs on time -/

def OneSize (account : FundingAccount) : Prop :=
  ∀ size ∈ account.size, ∀ time,
    account.exposureAt size time = size * hoursIn (time - account.since)

theorem OneSize.trade {account : FundingAccount} (same : OneSize account) {time : ℤ}
    {size : Option ℚ}
    (resized : ∀ old ∈ account.size, ∀ new ∈ size, new ≠ old →
      time = account.since) : OneSize (account.trade time size) := by
  intro new found later
  unfold FundingAccount.trade at found ⊢
  cases held : account.size with
  | none =>
      simp only [FundingAccount.exposureAt]
      exact zero_add _
  | some old =>
      simp only [held] at found ⊢
      have before := same old held time
      by_cases keeps : new = old
      · subst keeps
        change account.exposureAt new time + new * hoursIn (later - time) =
          new * hoursIn (later - account.since)
        rw [before, hoursIn_through account.since time later]
        ring
      · have now := resized old held new found keeps
        subst now
        rw [sub_self, hoursIn_zero, mul_zero] at before
        change account.exposureAt old account.since +
          new * hoursIn (later - account.since) = new * hoursIn (later - account.since)
        rw [before, zero_add]

theorem OneSize.charge (account : FundingAccount) (interval : ℕ) (size unit : ℚ)
    (time : ℤ) : OneSize (account.charge interval size unit time) := by
  intro held found later
  exact zero_add _

theorem timely_trade {account : FundingAccount} {interval : ℕ} {time : ℤ}
    (timely : account.Timely interval time) (size : Option ℚ) :
    (account.trade time size).Timely interval time := by
  unfold FundingAccount.trade
  cases held : account.size with
  | none =>
      intro _
      simp only [sub_self, hoursIn_zero, FundingAccount.allowance]
      positivity
  | some old =>
      intro _
      exact timely (by simp [held])

theorem timely_charge (account : FundingAccount) (interval : ℕ) (size unit : ℚ)
    (time : ℤ) : (account.charge interval size unit time).Timely interval time := by
  intro _
  simp only [FundingAccount.charge, sub_self, hoursIn_zero, FundingAccount.allowance,
    if_true]
  exact Nat.cast_nonneg interval

/-- An accrual on time moves the total and the account alike, and the first one of a
holding moves them apart by an interval at most. -/
theorem charge_close {account : FundingAccount} {interval : ℕ} {size unit total : ℚ}
    {time last : ℤ} (held : account.size = some size) (same : OneSize account)
    (timely : account.Timely interval time) (later : account.since ≤ time)
    (due : (interval : ℚ) ≤ hoursIn (time - last))
    (charged : account.charged = true → last = account.since)
    (close : |total - account.expected| ≤ account.slack) :
    |total + size * unit * interval -
        (account.charge interval size unit time).expected| ≤
      (account.charge interval size unit time).slack := by
  have exposed := same size held time
  have allowed := timely (by simp [held])
  have elapsed : 0 ≤ hoursIn (time - account.since) :=
    hoursIn_nonneg (sub_nonneg.mpr later)
  have parted : total + size * unit * interval -
      (account.charge interval size unit time).expected =
        total - account.expected +
          size * unit * (interval - hoursIn (time - account.since)) := by
    simp only [FundingAccount.charge, exposed]
    ring
  rw [parted]
  unfold FundingAccount.charge
  dsimp only
  by_cases again : account.charged = true
  · rw [if_pos again]
    rw [FundingAccount.allowance, if_pos again] at allowed
    rw [charged again] at due
    have exact_ : (interval : ℚ) = hoursIn (time - account.since) :=
      le_antisymm due allowed
    rw [exact_, sub_self, mul_zero, add_zero]
    exact close
  · rw [if_neg again]
    rw [FundingAccount.allowance, if_neg again] at allowed
    have within : |(interval : ℚ) - hoursIn (time - account.since)| ≤ interval := by
      rw [abs_le]
      constructor
      · linarith
      · linarith
    calc |total - account.expected +
          size * unit * (interval - hoursIn (time - account.since))|
        ≤ |total - account.expected| +
            |size * unit * (interval - hoursIn (time - account.since))| :=
          abs_add_le _ _
      _ = |total - account.expected| +
            |size * unit| * |interval - hoursIn (time - account.since)| := by
          rw [abs_mul]
      _ ≤ account.slack + |size * unit| * interval :=
          add_le_add close (mul_le_mul_of_nonneg_left within (abs_nonneg _))

/-- Every state polled on time is accounted for. -/
theorem Reached.accounted (reached : Reached rates symbol OnTime run) :
    run.Accounted symbol ∧ OneSize run.account := by
  induction reached with
  | fresh gate accrual settlement enabled clock =>
      refine ⟨⟨?_, fun held => absurd rfl held⟩, fun size found => nomatch found⟩
      have nothing : (FundingTracker.fresh accrual settlement).total symbol = 0 :=
        FundingTracker.fresh_started accrual settlement symbol rfl
      change |(FundingTracker.fresh accrual settlement).total symbol - 0| ≤ 0
      rw [nothing, sub_zero, abs_zero]
  | @trade run before time size later met accounted =>
      refine ⟨⟨?_, timely_trade met.1 size⟩, accounted.2.trade met.2⟩
      have close := accounted.1.total
      unfold FundingRun.trade FundingAccount.trade
      split
      · exact close
      · exact close
  | @poll run before poll later seen met accounted =>
      have aligned := before.aligned
      have outcome := run.poll_outcome rates poll aligned seen
      suffices kept : (|(run.state.poll rates poll).tracker.total symbol -
            (run.poll rates symbol poll).account.expected| ≤
          (run.poll rates symbol poll).account.slack ∧
        (run.poll rates symbol poll).account.Timely run.interval poll.time) ∧
        OneSize (run.poll rates symbol poll).account from
        ⟨⟨kept.1.1, kept.1.2⟩, kept.2⟩
      generalize (run.poll rates symbol poll).account = account at outcome ⊢
      generalize (run.state.poll rates poll).tracker.lastAccrualTs.get? symbol =
        accrual at outcome
      generalize (run.state.poll rates poll).tracker.total symbol = total
        at outcome ⊢
      cases outcome with
      | idle => exact ⟨⟨accounted.1.total, met⟩, accounted.2⟩
      | first unset held => exact ⟨⟨accounted.1.total, met⟩, accounted.2⟩
      | charged last size set held due =>
          have open_ : run.account.size ≠ none := by simp [held]
          refine ⟨⟨?_, timely_charge _ _ _ _ _⟩, OneSize.charge _ _ _ _ _⟩
          apply charge_close held accounted.2 met
            ((aligned.held open_).trans later) due _ accounted.1.total
          intro charged
          have own := aligned.charged open_ charged
          rw [set] at own
          exact Option.some.inj own

end FundingRun

/-! ## Two sequences of polls -/

namespace FundingSchedule

/-- The time of the last accrual, or of the first poll if that is later. -/
def accruedSince (schedule : FundingSchedule) (first : ℤ) : ℤ :=
  match schedule.accrued with
  | none => first
  | some last => max last first

/-- Every poll comes at most one accrual interval after the last accrual or the first
poll. -/
def Regular (intervals : FundingIntervals) (first : ℤ) :
    FundingSchedule → List ℤ → Prop
  | _, [] => True
  | schedule, time :: rest =>
      hoursIn (time - schedule.accruedSince first) ≤ intervals.accrual ∧
        Regular intervals first (schedule.poll intervals time true true) rest

end FundingSchedule

namespace FundingState

variable (rates : String → ℤ → Option ℚ)

/-- The state after a list of polls. -/
def pollAll (state : FundingState) (polls : List FundingPoll) : FundingState :=
  polls.foldl (fun now poll => now.poll rates poll) state

end FundingState

/-- The poll sees a position of a size at a mark and a rate. -/
structure FundingPoll.Steady (poll : FundingPoll)
    (rates : String → ℤ → Option ℚ) (symbol : String) (held : HeldPosition)
    (rate : ℚ) : Prop where
  listed : symbol ∈ poll.symbols
  seen : poll.broker.heldPosition symbol = some held
  rated : rates symbol poll.time = some rate

/-- The polls of a constant position at a constant mark and rate, at increasing times
from a first to a last. -/
structure SteadyPolls (rates : String → ℤ → Option ℚ) (symbol : String)
    (held : HeldPosition) (rate : ℚ) (first last : ℤ) (polls : List FundingPoll) :
    Prop where
  steady : ∀ poll ∈ polls, poll.Steady rates symbol held rate
  increasing : (polls.map FundingPoll.time).Pairwise (· < ·)
  starts : (polls.map FundingPoll.time).head? = some first
  ends : (polls.map FundingPoll.time).getLast? = some last

namespace SteadyPolls

/-- How far some moves of the last accrual have come since the first poll. -/
structure Window (start : SymbolFunding) (charge : ℚ) (interval : ℕ) (first : ℤ)
    (moves : ℕ) (now : SymbolFunding) : Prop where
  total : now.total = start.total +
    ((moves - if start.lastAccrual = none then 1 else 0 : ℕ) : ℚ) * charge
  moved : moves = 0 ∧ now.lastAccrual = start.lastAccrual ∨
    0 < moves ∧ ∃ last, now.lastAccrual = some last ∧ first < last ∧
      ((moves : ℚ) - 1) * interval < hoursIn (last - first) ∧
      hoursIn (last - first) ≤ moves * interval

def Reach (interval : ℕ) (first : ℤ) (moves : ℕ) (time : ℤ) : Prop :=
  ((moves : ℚ) - 1) * interval < hoursIn (time - first) ∧
    hoursIn (time - first) ≤ ((moves : ℚ) + 1) * interval

variable {start : SymbolFunding} {charge : ℚ} {interval : ℕ} {first : ℤ}

theorem Window.moves_pos {moves : ℕ} {now : SymbolFunding}
    (window : Window start charge interval first moves now) {last : ℤ}
    (found : now.lastAccrual = some last) :
    (if start.lastAccrual = none then 1 else 0) ≤ moves := by
  split
  next unset =>
    obtain ⟨zero, same⟩ | ⟨positive, _⟩ := window.moved
    · rw [same, unset] at found
      cases found
    · exact positive
  · exact Nat.zero_le moves

section

variable {moves : ℕ} {now : SymbolFunding}
variable (window : Window start charge interval first moves now)
variable (earlier : ∀ last ∈ start.lastAccrual, last ≤ first)

include moves now window earlier

theorem Window.accruedSince :
    moves = 0 ∧ now.schedule.accruedSince first = first ∨
      ∃ last, now.lastAccrual = some last ∧ now.schedule.accruedSince first = last ∧
        ((moves : ℚ) - 1) * interval < hoursIn (last - first) ∧
        hoursIn (last - first) ≤ moves * interval := by
  unfold FundingSchedule.accruedSince SymbolFunding.schedule
  obtain ⟨none_, same⟩ | ⟨_, last, found, after, above, below⟩ := window.moved
  · refine .inl ⟨none_, ?_⟩
    rw [same]
    cases known : start.lastAccrual with
    | none => rfl
    | some last => exact max_eq_right (earlier last known)
  · refine .inr ⟨last, found, ?_, above, below⟩
    rw [found]
    exact max_eq_left after.le

theorem Window.move {time : ℤ} (later : first < time)
    (due : ∀ last ∈ now.lastAccrual, (interval : ℚ) ≤ hoursIn (time - last))
    (regular : hoursIn (time - now.schedule.accruedSince first) ≤ interval) :
    (((moves + 1 : ℕ) : ℚ) - 1) * interval < hoursIn (time - first) ∧
      hoursIn (time - first) ≤ ((moves + 1 : ℕ) : ℚ) * interval := by
  push_cast
  obtain ⟨rfl, since⟩ | ⟨last, found, since, above, below⟩ :=
    window.accruedSince earlier
  · rw [since] at regular
    have positive := hoursIn_pos (sub_pos.mpr later)
    constructor
    · simpa using positive
    · simpa using regular
  · rw [since] at regular
    have one := le_antisymm regular (due last found)
    rw [hoursIn_through first last time, one]
    constructor
    · linarith
    · linarith

theorem Window.stay {time : ℤ} (later : first < time)
    (notBefore : ∀ last ∈ now.lastAccrual, last ≤ time)
    (regular : hoursIn (time - now.schedule.accruedSince first) ≤ interval) :
    Reach interval first moves time := by
  unfold Reach
  obtain ⟨rfl, since⟩ | ⟨last, found, since, above, below⟩ :=
    window.accruedSince earlier
  · rw [since] at regular
    have positive := hoursIn_pos (sub_pos.mpr later)
    have nonneg : (0 : ℚ) ≤ interval := Nat.cast_nonneg interval
    constructor
    · push_cast
      linarith
    · push_cast
      linarith
  · rw [since] at regular
    have nonneg := hoursIn_nonneg (sub_nonneg.mpr (notBefore last found))
    rw [hoursIn_through first last time]
    constructor
    · linarith
    · linarith

end

theorem reach_of_moved {moves : ℕ} {time : ℤ}
    (moved : (((moves + 1 : ℕ) : ℚ) - 1) * interval < hoursIn (time - first) ∧
      hoursIn (time - first) ≤ ((moves + 1 : ℕ) : ℚ) * interval) :
    Reach interval first (moves + 1) time := by
  have nonneg : (0 : ℚ) ≤ interval := Nat.cast_nonneg interval
  refine ⟨moved.1, moved.2.trans ?_⟩
  linarith

theorem Window.polled {moves : ℕ} {now after : SymbolFunding} {held : HeldPosition}
    {rate : ℚ}
    (window : Window start (held.size * held.mark * (rate / 8 * interval)) interval
      first moves now)
    (earlier : ∀ last ∈ start.lastAccrual, last ≤ first) {time : ℤ}
    (later : first < time) (notBefore : ∀ last ∈ now.lastAccrual, last ≤ time)
    (regular : hoursIn (time - now.schedule.accruedSince first) ≤ interval)
    (polled : SymbolFunding.Polled now interval time (some rate) (some held) after) :
    ∃ moves, Window start (held.size * held.mark * (rate / 8 * interval)) interval
        first moves after ∧
      Reach interval first moves time ∧ ∀ last ∈ after.lastAccrual, last ≤ time := by
  cases polled with
  | idle lastFunding =>
      refine ⟨moves, ⟨window.total, window.moved⟩, ?_, notBefore⟩
      exact window.stay earlier later notBefore regular
  | first unset seen =>
      have moved := window.move earlier later
        (fun last found => by rw [unset] at found; cases found) regular
      have start_ : moves = 0 ∧ start.lastAccrual = none := by
        obtain ⟨zero, same⟩ | ⟨_, last, found, _⟩ := window.moved
        · exact ⟨zero, same.symm.trans unset⟩
        · rw [unset] at found
          cases found
      refine ⟨moves + 1, ⟨?_, .inr ⟨Nat.succ_pos moves, time, rfl, later, moved⟩⟩,
        reach_of_moved moved, ?_⟩
      · have total := window.total
        rw [start_.1, if_pos start_.2] at total ⊢
        exact total
      · intro last found
        cases found
        exact le_refl time
  | charged last rated position set hasRate seen due =>
      cases hasRate
      cases seen
      have moved := window.move earlier later
        (fun other found => by rw [set] at found; cases found; exact due) regular
      refine ⟨moves + 1, ⟨?_, .inr ⟨Nat.succ_pos moves, time, rfl, later, moved⟩⟩,
        reach_of_moved moved, ?_⟩
      · have total := window.total
        have counted := window.moves_pos set
        dsimp only
        rw [total, Nat.sub_add_comm counted]
        push_cast
        ring
      · intro last found
        cases found
        exact le_refl time

variable {rates : String → ℤ → Option ℚ} {symbol : String} {held : HeldPosition}
  {rate : ℚ}

theorem poll_steady {poll : FundingPoll}
    (steady : poll.Steady rates symbol held rate) (state : FundingState)
    (started : state.tracker.Started) :
    (state.poll rates poll).funding symbol =
      (state.funding symbol).poll state.intervals poll.time (some rate)
        (some held) := by
  rw [state.poll_funding rates poll started, if_pos steady.listed, steady.rated,
    steady.seen]

theorem regular_tail {poll : FundingPoll} {rest : List FundingPoll}
    (steady : poll.Steady rates symbol held rate) (state : FundingState)
    (started : state.tracker.Started)
    (regular : FundingSchedule.Regular state.intervals first
      (state.funding symbol).schedule ((poll :: rest).map FundingPoll.time)) :
    FundingSchedule.Regular (state.poll rates poll).intervals first
      ((state.poll rates poll).funding symbol).schedule
      (rest.map FundingPoll.time) := by
  rw [state.poll_intervals rates poll started, poll_steady steady state started,
    SymbolFunding.poll_schedule]
  exact regular.2

theorem window_run (polls : List FundingPoll) (state : FundingState)
    (started : state.tracker.Started)
    (steady : ∀ poll ∈ polls, poll.Steady rates symbol held rate)
    (regular : FundingSchedule.Regular state.intervals first
      (state.funding symbol).schedule (polls.map FundingPoll.time)) {clock : ℤ}
    (fromFirst : first ≤ clock)
    (increasing : (clock :: polls.map FundingPoll.time).Pairwise (· < ·))
    (earlier : ∀ last ∈ start.lastAccrual, last ≤ first)
    (notBefore : ∀ last ∈ (state.funding symbol).lastAccrual, last ≤ clock)
    {moves : ℕ}
    (window : Window start
      (held.size * held.mark * (rate / 8 * state.intervals.accrual))
      state.intervals.accrual first moves (state.funding symbol)) :
    ∃ moves, Window start
        (held.size * held.mark * (rate / 8 * state.intervals.accrual))
        state.intervals.accrual first moves
        ((state.pollAll rates polls).funding symbol) ∧
      ∀ last ∈ (polls.map FundingPoll.time).getLast?,
        Reach state.intervals.accrual first moves last := by
  induction polls generalizing state clock moves with
  | nil => exact ⟨moves, window, fun _ found => nomatch found⟩
  | cons poll rest induction =>
      rw [List.map_cons, List.pairwise_cons] at increasing
      have next := increasing.1 poll.time List.mem_cons_self
      have own := steady poll List.mem_cons_self
      have polled := SymbolFunding.poll_polled (state.funding symbol) state.intervals
        poll.time (some rate) (some held)
      rw [← poll_steady own state started] at polled
      obtain ⟨moved, after, reach, notAfter⟩ := window.polled earlier
        (fromFirst.trans_lt next)
        (fun last found => (notBefore last found).trans next.le) regular.1 polled
      have intervals := state.poll_intervals rates poll started
      rw [← intervals] at after reach ⊢
      have later := regular_tail own state started regular
      obtain ⟨finally_, kept, reached⟩ := induction (state.poll rates poll)
        (state.poll_started rates poll started)
        (fun other member => steady other (List.mem_cons_of_mem poll member))
        later (fromFirst.trans next.le) increasing.2 notAfter after
      cases rest with
      | nil =>
          refine ⟨moved, after, ?_⟩
          intro last found
          cases found
          exact reach
      | cons second rest =>
          refine ⟨finally_, kept, ?_⟩
          intro last found
          rw [List.map_cons, List.map_cons, List.getLast?_cons_cons] at found
          exact reached last found

theorem moves_close {moves others : ℕ} {time : ℤ}
    (one : Reach interval first moves time) (other : Reach interval first others time) :
    moves ≤ others + 1 := by
  have crossed : ((moves : ℚ) - 1) * interval < ((others : ℚ) + 1) * interval :=
    one.1.trans_le other.2
  have nonneg : (0 : ℚ) ≤ interval := Nat.cast_nonneg interval
  have counts := lt_of_mul_lt_mul_right crossed nonneg
  have below : (moves : ℚ) < ((others + 2 : ℕ) : ℚ) := by
    push_cast
    linarith
  have : moves < others + 2 := by exact_mod_cast below
  omega

theorem totals_close {moves others : ℕ} {now later : SymbolFunding}
    (window : Window start charge interval first moves now)
    (other : Window start charge interval first others later)
    (above : moves ≤ others + 1) (below : others ≤ moves + 1) :
    |now.total - later.total| ≤ |charge| := by
  rw [window.total, other.total]
  generalize (if start.lastAccrual = none then 1 else 0) = unset
  have difference : start.total + ((moves - unset : ℕ) : ℚ) * charge -
      (start.total + ((others - unset : ℕ) : ℚ) * charge) =
        (((moves - unset : ℕ) : ℚ) - ((others - unset : ℕ) : ℚ)) * charge := by
    ring
  have first : moves - unset ≤ others - unset + 1 := by omega
  have second : others - unset ≤ moves - unset + 1 := by omega
  have upper : ((moves - unset : ℕ) : ℚ) ≤ ((others - unset : ℕ) : ℚ) + 1 := by
    exact_mod_cast first
  have lower : ((others - unset : ℕ) : ℚ) ≤ ((moves - unset : ℕ) : ℚ) + 1 := by
    exact_mod_cast second
  rw [difference, abs_mul]
  apply mul_le_of_le_one_left (abs_nonneg charge)
  rw [abs_le]
  constructor
  · linarith
  · linarith

/-- Polls from a state are a first poll and the moves of the later ones. -/
theorem window_of_polls {state : FundingState} (started : state.tracker.Started)
    {last : ℤ} {polls : List FundingPoll}
    (known : ∀ accrual ∈ (state.funding symbol).lastAccrual, accrual ≤ first)
    (sequence : SteadyPolls rates symbol held rate first last polls)
    (regular : FundingSchedule.Regular state.intervals first
      (state.funding symbol).schedule (polls.map FundingPoll.time)) :
    ∃ moves, Window
        ((state.funding symbol).poll state.intervals first (some rate) (some held))
        (held.size * held.mark * (rate / 8 * state.intervals.accrual))
        state.intervals.accrual first moves
        ((state.pollAll rates polls).funding symbol) ∧
      (last = first ∧ moves = 0 ∨
        first < last ∧ Reach state.intervals.accrual first moves last) := by
  cases polls with
  | nil => exact nomatch sequence.starts
  | cons poll rest =>
      have firstTime : poll.time = first := Option.some.inj sequence.starts
      subst firstTime
      have own := sequence.steady poll List.mem_cons_self
      have increasing := sequence.increasing
      rw [List.map_cons] at increasing
      have polled := SymbolFunding.poll_polled (state.funding symbol) state.intervals
        poll.time (some rate) (some held)
      have after := poll_steady own state started
      have notAfter : ∀ accrual ∈ ((state.poll rates poll).funding symbol).lastAccrual,
          accrual ≤ poll.time := by
        rw [after]
        generalize (state.funding symbol).poll state.intervals poll.time (some rate)
          (some held) = moved at polled
        cases polled with
        | idle lastFunding => exact known
        | first unset seen =>
            intro accrual found
            cases found
            exact le_refl _
        | charged last rated position set hasRate seen due =>
            intro accrual found
            cases found
            exact le_refl _
      have intervals := state.poll_intervals rates poll started
      have still : Window ((state.poll rates poll).funding symbol)
          (held.size * held.mark *
            (rate / 8 * (state.poll rates poll).intervals.accrual))
          (state.poll rates poll).intervals.accrual poll.time 0
          ((state.poll rates poll).funding symbol) :=
        ⟨by simp, .inl ⟨rfl, rfl⟩⟩
      obtain ⟨moves, kept, reached⟩ := window_run rest (state.poll rates poll)
        (state.poll_started rates poll started)
        (fun other member => sequence.steady other (List.mem_cons_of_mem poll member))
        (regular_tail own state started regular) (le_refl poll.time) increasing notAfter notAfter still
      rw [intervals] at kept reached
      rw [after] at kept
      have ends := sequence.ends
      cases rest with
      | nil =>
          refine ⟨0, ⟨?_, .inl ⟨rfl, ?_⟩⟩, .inl ⟨(Option.some.inj ends).symm, rfl⟩⟩
          · change ((state.poll rates poll).funding symbol).total = _
            rw [after]
            simp
          · change ((state.poll rates poll).funding symbol).lastAccrual = _
            rw [after]
      | cons second rest =>
          refine ⟨moves, kept, .inr ⟨?_, ?_⟩⟩
          · rw [List.map_cons, List.map_cons, List.getLast?_cons_cons] at ends
            exact (List.pairwise_cons.mp increasing).1 last
              (List.mem_of_getLast? ends)
          · rw [List.map_cons, List.map_cons, List.getLast?_cons_cons] at ends
            exact reached last ends

end SteadyPolls

/-- In every run on time the funding is that of the time held, and two regular
sequences of polls of the same position accrue the same up to an interval. -/
theorem funding_follows_held_time (rates : String → ℤ → Option ℚ) (symbol : String) :
    (∀ run, FundingRun.Reached rates symbol FundingRun.OnTime run →
      run.Accounted symbol) ∧
      ∀ run, FundingRun.Reached rates symbol (fun _ _ => True) run →
        ∀ held rate first last polls others, run.clock ≤ first →
          SteadyPolls rates symbol held rate first last polls →
          SteadyPolls rates symbol held rate first last others →
          FundingSchedule.Regular run.intervals first run.schedule
            (polls.map FundingPoll.time) →
          FundingSchedule.Regular run.intervals first run.schedule
            (others.map FundingPoll.time) →
            |(run.state.pollAll rates polls).tracker.total symbol -
                (run.state.pollAll rates others).tracker.total symbol| ≤
              |held.size * held.mark * (rate / 8 * run.interval)| := by
  constructor
  · intro run reached
    exact reached.accounted.1
  · intro run reached held rate first last polls others later one other regular
      regularOther
    have aligned := reached.aligned
    rw [← aligned.intervals, ← aligned.scheduled] at regular regularOther
    rw [FundingRun.interval, ← aligned.intervals]
    have known : ∀ accrual ∈ (run.state.funding symbol).lastAccrual,
        accrual ≤ first := by
      intro accrual found
      exact (aligned.accrued accrual found).trans later
    obtain ⟨moves, window, reach⟩ :=
      one.window_of_polls aligned.started known regular
    obtain ⟨moved, windowOther, reachOther⟩ :=
      other.window_of_polls aligned.started known regularOther
    have counts : moves ≤ moved + 1 ∧ moved ≤ moves + 1 := by
      obtain ⟨same, rfl⟩ | ⟨after, reach⟩ := reach
      · obtain ⟨_, rfl⟩ | ⟨afterOther, _⟩ := reachOther
        · exact ⟨Nat.zero_le _, Nat.zero_le _⟩
        · exact absurd afterOther (by rw [same]; exact lt_irrefl first)
      · obtain ⟨same, _⟩ | ⟨_, reachOther⟩ := reachOther
        · exact absurd after (by rw [same]; exact lt_irrefl first)
        · exact ⟨SteadyPolls.moves_close reach reachOther,
            SteadyPolls.moves_close reachOther reach⟩
    have close := SteadyPolls.totals_close window windowOther counts.1 counts.2
    exact close

/-! ## Hourly polls and longer bars -/

def coinPoll (minute : ℤ) : FundingPoll :=
  let time := minute * 60000000
  { broker :=
      { SimulatedBroker.fresh 1000 .tier7 plainFills with
        positions := .ofList [("COIN",
          { quantity := 1
            entryPrice := 100
            markPrice := 100
            unrealizedPnl := 0
            realizedPnl := 0
            side := .long
            leverage := none })]
        simulationTime := some time }
    time := time
    clock := rfl
    symbols := ["COIN"] }

def centAnHour : String → ℤ → Option ℚ :=
  fun _ _ => some (8 / 10000)

def newFunding : FundingRun :=
  { state := { processor := .fresh 1 true, tracker := .fresh 1 8 }
    intervals := { enabled := true, gate := 1, accrual := 1 }
    schedule := .fresh
    account := .fresh
    clock := 0 }

def coinHeld (minutes : List ℤ) : FundingRun :=
  minutes.foldl (fun run minute => run.poll centAnHour "COIN" (coinPoll minute))
    (newFunding.trade 0 (some 1))

def coinFunding (minutes : List ℤ) : ℚ :=
  (newFunding.state.pollAll centAnHour (minutes.map coinPoll)).tracker.total "COIN"

theorem newFunding_reached (meets : FundingRun → FundingStep → Prop) :
    FundingRun.Reached centAnHour "COIN" meets newFunding :=
  .fresh 1 1 8 true 0

theorem steadyPolls_of_minutes {minutes : List ℤ} {first last : ℤ}
    (increasing : ((minutes.map coinPoll).map FundingPoll.time).Pairwise (· < ·))
    (starts : ((minutes.map coinPoll).map FundingPoll.time).head? = some first)
    (ends : ((minutes.map coinPoll).map FundingPoll.time).getLast? = some last) :
    SteadyPolls centAnHour "COIN" ⟨1, 100⟩ (8 / 10000) first last
      (minutes.map coinPoll) := by
  refine ⟨?_, increasing, starts, ends⟩
  intro poll member
  obtain ⟨minute, _, rfl⟩ := List.mem_map.mp member
  exact ⟨List.mem_singleton.mpr rfl, rfl, rfl⟩

/-- Hourly polls accrue the hours held, and half-hourly polls accrue as much. -/
theorem hourly_polls_accrue_time_held :
    (coinHeld [0, 60, 120]).Accounted "COIN" ∧
      |coinFunding [0, 60, 120] - coinFunding [0, 30, 60, 90, 120]| ≤
        |(1 : ℚ) * 100 * (8 / 10000 / 8 * (1 : ℕ))| := by
  obtain ⟨runs, sequences⟩ := funding_follows_held_time centAnHour "COIN"
  constructor
  · have bought := (newFunding_reached FundingRun.OnTime).trade 0 (some 1)
      (by decide +kernel) (by decide +kernel)
    have first := bought.poll (coinPoll 0) (by decide +kernel) (by decide +kernel)
      (by decide +kernel)
    have second := first.poll (coinPoll 60) (by decide +kernel) (by decide +kernel)
      (by decide +kernel)
    have third := second.poll (coinPoll 120) (by decide +kernel)
      (by decide +kernel) (by decide +kernel)
    exact runs _ third
  · apply sequences newFunding (newFunding_reached fun _ _ => True) ⟨1, 100⟩
      (8 / 10000) 0 (120 * 60000000)
    · exact le_refl 0
    · exact steadyPolls_of_minutes (by decide) rfl rfl
    · exact steadyPolls_of_minutes (by decide) rfl rfl
    · refine ⟨?_, ?_, ?_, trivial⟩
      all_goals decide +kernel
    · refine ⟨?_, ?_, ?_, ?_, ?_, trivial⟩
      all_goals decide +kernel

/-- Bars of four hours accrue an hour each: a quarter of the time held, and less
than hourly polls of the same position by much more than an hour. -/
theorem four_hour_bars_accrue_one_hour :
    (∃ run, FundingRun.Reached centAnHour "COIN" (fun _ _ => True) run ∧
        run.state.tracker.total "COIN" = 1 / 50 ∧ run.account.expected = 8 / 100 ∧
        ¬ run.Accounted "COIN") ∧
      coinFunding [0, 240, 480] = 1 / 50 ∧
      coinFunding [0, 60, 120, 180, 240, 300, 360, 420, 480] = 8 / 100 := by
  refine ⟨⟨coinHeld [0, 240, 480], ?_, ?_, ?_, ?_⟩, ?_, ?_⟩
  · have bought := (newFunding_reached fun _ _ => True).trade 0 (some 1)
      (by decide +kernel) trivial
    have first := bought.poll (coinPoll 0) (by decide +kernel) (by decide +kernel)
      trivial
    have second := first.poll (coinPoll 240) (by decide +kernel)
      (by decide +kernel) trivial
    exact second.poll (coinPoll 480) (by decide +kernel) (by decide +kernel) trivial
  · decide +kernel
  · decide +kernel
  · intro accounted
    have close := accounted.total
    revert close
    decide +kernel
  · decide +kernel
  · decide +kernel

end GptTrader
