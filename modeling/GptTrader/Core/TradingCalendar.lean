import GptTrader.Library.ActiveTime
import GptTrader.Python.Values
import Mathlib.Order.WithBot
import Mathlib.Data.Int.ConditionallyCompleteOrder

/-!
# Open-time arithmetic

`advance_by_open_time` of `core/trading_calendar.py` over any calendar of the
protocol.  A calendar answers for a set of sessions, disjoint half-open intervals of
moments; its open moments are those of its sessions, and the arithmetic advances a
start by a duration of open moments.
-/

namespace GptTrader

namespace SessionCalendar

/-- `_as_utc`: a naive value is read as UTC. -/
def asUtc (moment : DateTime) : DateTime :=
  if moment.offset.isNone then { moment with offset := some 0 }
  else .utc moment.instant

@[simp] theorem asUtc_eq (moment : DateTime) :
    asUtc moment = .utc moment.instant := by
  obtain ⟨wall, _ | offset⟩ := moment
  · simp [asUtc, DateTime.utc, DateTime.instant]
  · simp [asUtc]

@[simp] theorem instant_utc (instant : ℤ) :
    (DateTime.utc instant).instant = instant := by
  simp [DateTime.utc, DateTime.instant]

/-- The market-hours questions of `TradingCalendar` that the arithmetic asks.  A
calendar may raise: what it raises propagates. -/
structure Protocol (ε : Type) where
  sessionId : String
  isOpen : DateTime → Except ε Bool
  nextOpen : DateTime → Except ε (Option DateTime)
  nextClose : DateTime → Except ε (Option DateTime)

/-- What `advance_by_open_time` raises: a `ValueError` of its own, or what the
calendar raised. -/
inductive Failure (ε : Type) where
  | valueError (message : String)
  | calendar (error : ε)

variable {ε : Type} (calendar : Protocol ε) (showRepr : String → String)

/-- One pass of the loop, with time remaining: either the answer, or the cursor and
the remaining time of the next pass. -/
def pass (cursor : DateTime) (remaining : ℤ) :
    Except (Failure ε) (DateTime ⊕ DateTime × ℤ) := do
  if !(← (calendar.isOpen cursor).mapError .calendar) then
    match ← (calendar.nextOpen cursor).mapError .calendar with
    | none =>
        .error (.valueError ("Calendar " ++ showRepr calendar.sessionId ++
          " is closed and has no next open"))
    | some nextOpen =>
        if (asUtc nextOpen).instant ≤ cursor.instant then
          .error (.valueError ("Calendar " ++ showRepr calendar.sessionId ++
            " returned a non-advancing next open"))
        else .ok (.inr (asUtc nextOpen, remaining))
  else
    match ← (calendar.nextClose cursor).mapError .calendar with
    | none => .ok (.inl (.utc (cursor.instant + remaining)))
    | some nextClose =>
        if (asUtc nextClose).instant ≤ cursor.instant then
          .error (.valueError ("Calendar " ++ showRepr calendar.sessionId ++
            " returned a non-advancing next close"))
        else
          let openSpan := (asUtc nextClose).instant - cursor.instant
          if remaining ≤ openSpan then
            .ok (.inl (.utc (cursor.instant + remaining)))
          else .ok (.inr (asUtc nextClose, remaining - openSpan))

def loop : ℕ → DateTime → ℤ → Option (Except (Failure ε) DateTime)
  | 0, _, _ => none
  | fuel + 1, cursor, remaining =>
      if remaining ≤ 0 then some (.ok cursor)
      else
        match pass calendar showRepr cursor remaining with
        | .error error => some (.error error)
        | .ok (.inl answer) => some (.ok answer)
        | .ok (.inr (cursor, remaining)) => loop fuel cursor remaining

/-- `advance_by_open_time`, without an answer when the fuel runs out. -/
def advanceByOpenTime (fuel : ℕ) (start : DateTime) (duration : ℤ) :
    Option (Except (Failure ε) DateTime) :=
  if duration < 0 then
    some (.error (.valueError "Open-session duration must be non-negative"))
  else loop calendar showRepr fuel (asUtc start) duration

/-! ## Calendars that answer for a set of sessions -/

/-- A trading session: the market is open from its open, which it need not have, up
to its close, which it need not have either. -/
structure Session where
  opens : WithBot ℤ
  closes : WithTop ℤ
  inhabited : ∃ moment : ℤ, opens ≤ moment ∧ (moment : WithTop ℤ) < closes

/-- The moment lies in the session. -/
def Session.Contains (session : Session) (moment : ℤ) : Prop :=
  session.opens ≤ moment ∧ (moment : WithTop ℤ) < session.closes

/-- The sessions of a market.  They do not overlap, and the market never stops
opening for good. -/
structure Schedule where
  sessions : Set Session
  disjoint : ∀ first ∈ sessions, ∀ second ∈ sessions, ∀ moment,
    first.Contains moment → second.Contains moment → first = second
  unbounded : ∀ moment amount, ∃ later, moment ≤ later ∧
    amount ≤ ActiveTime.elapsed
      {moment | ∃ session ∈ sessions, session.Contains moment} moment later

namespace Schedule

variable (schedule : Schedule)

/-- The moments at which the venue is open. -/
def openMoments : Set ℤ :=
  {moment | ∃ session ∈ schedule.sessions, session.Contains moment}

def opens : Set ℤ :=
  {moment | ∃ session ∈ schedule.sessions, session.opens = moment}

def closes : Set ℤ :=
  {moment | ∃ session ∈ schedule.sessions, session.closes = moment}

end Schedule

/-- The first boundary after the moment, if any. -/
def EarliestAfter (boundaries : Set ℤ) (moment : ℤ) : Option DateTime → Prop
  | none => ∀ boundary ∈ boundaries, boundary ≤ moment
  | some next =>
      IsLeast {boundary ∈ boundaries | moment < boundary} next.instant

/-- The calendar answers every question, as the protocol says, for the sessions of
a schedule. -/
structure Protocol.Keeps (calendar : Protocol ε) (schedule : Schedule) :
    Prop where
  isOpen : ∀ moment, ∃ answer, calendar.isOpen moment = .ok answer ∧
    (answer = true ↔ moment.instant ∈ schedule.openMoments)
  nextOpen : ∀ moment, ∃ answer, calendar.nextOpen moment = .ok answer ∧
    EarliestAfter schedule.opens moment.instant answer
  nextClose : ∀ moment, ∃ answer, calendar.nextClose moment = .ok answer ∧
    EarliestAfter schedule.closes moment.instant answer

namespace Schedule

variable {schedule : Schedule} {moment : ℤ}

theorem closed_until {next : ℤ} (closed : moment ∉ schedule.openMoments)
    (least : ∀ boundary ∈ schedule.opens, moment < boundary → next ≤ boundary) :
    ∀ other, moment ≤ other → other < next → other ∉ schedule.openMoments := by
  intro other late before ⟨session, listed, from', until'⟩
  apply closed
  refine ⟨session, listed, ?_, lt_of_le_of_lt (by exact_mod_cast late) until'⟩
  by_contra after
  rcases shape : session.opens with _ | opens
  · rw [shape] at after
    exact after bot_le
  · rw [shape] at after from'
    have later : moment < opens := WithBot.coe_lt_coe.mp (not_le.mp after)
    have reached : opens ≤ other := WithBot.coe_le_coe.mp from'
    have bound : next ≤ opens := least opens ⟨session, listed, shape⟩ later
    omega

theorem open_until {other : ℤ} (opened : moment ∈ schedule.openMoments)
    (late : moment ≤ other)
    (before : ∀ boundary ∈ schedule.closes, moment < boundary →
      other < boundary) : other ∈ schedule.openMoments := by
  obtain ⟨session, listed, from', until'⟩ := opened
  refine ⟨session, listed, le_trans from' (by exact_mod_cast late), ?_⟩
  rcases shape : session.closes with _ | closes
  · exact WithTop.coe_lt_top other
  · rw [shape] at until'
    have later : moment < closes := WithTop.coe_lt_coe.mp until'
    exact WithTop.coe_lt_coe.mpr (before closes ⟨session, listed, shape⟩ later)

theorem open_at {boundary : ℤ} (member : boundary ∈ schedule.opens) :
    boundary ∈ schedule.openMoments := by
  obtain ⟨session, listed, opens⟩ := member
  obtain ⟨inside, from', until'⟩ := session.inhabited
  refine ⟨session, listed, le_of_eq opens, ?_⟩
  rw [opens] at from'
  exact lt_of_le_of_lt (by exact_mod_cast from') until'

end Schedule

/-! ## The loop -/

section Loop

variable {calendar : Protocol ε} {schedule : Schedule}

/-- What one pass does: it answers, it skips to the next open,
or it uses up the rest of a session. -/
theorem pass_spec (showRepr : String → String)
    (keeps : calendar.Keeps schedule) (cursor : ℤ) (remaining : ℕ) :
    (pass calendar showRepr (.utc cursor) remaining =
        .ok (.inl (.utc (cursor + remaining))) ∧
      ActiveTime.Advances schedule.openMoments cursor remaining
        (cursor + remaining)) ∨
    (∃ next, pass calendar showRepr (.utc cursor) remaining =
        .ok (.inr (.utc next, remaining)) ∧
      cursor ∉ schedule.openMoments ∧ next ∈ schedule.openMoments ∧
      cursor ≤ next ∧
      ActiveTime.elapsed schedule.openMoments cursor next = 0) ∨
    (∃ (next : ℤ) (used : ℕ), pass calendar showRepr (.utc cursor) remaining =
        .ok (.inr (.utc next, (remaining - used : ℕ))) ∧
      cursor ∈ schedule.openMoments ∧ cursor ≤ next ∧ 0 < used ∧
      used < remaining ∧
      ActiveTime.elapsed schedule.openMoments cursor next = used) := by
  obtain ⟨opened, asked, meaning⟩ := keeps.isOpen (.utc cursor)
  rw [instant_utc] at meaning
  cases opened with
  | false =>
      have closed : cursor ∉ schedule.openMoments := by
        intro member
        exact Bool.false_ne_true (meaning.mpr member)
      obtain ⟨answer, found, earliest⟩ := keeps.nextOpen (.utc cursor)
      rw [instant_utc] at earliest
      cases answer with
      | none =>
          -- a market that is closed for good contradicts the schedule
          exfalso
          obtain ⟨later, late, enough⟩ := schedule.unbounded cursor 1
          have nothing : ActiveTime.elapsed schedule.openMoments cursor later = 0 := by
            apply ActiveTime.elapsed_eq_zero
            intro moment from' before
            have least : ∀ boundary ∈ schedule.opens, cursor < boundary →
                moment + 1 ≤ boundary := by
              intro boundary member after
              have never := earliest boundary member
              omega
            exact Schedule.closed_until closed least moment from' (by omega)
          have same : ActiveTime.elapsed schedule.openMoments cursor later =
              ActiveTime.elapsed {moment | ∃ session ∈ schedule.sessions,
                session.Contains moment} cursor later := rfl
          omega
      | some next =>
          right
          left
          have after : cursor < next.instant := earliest.1.2
          refine ⟨next.instant, ?_, closed, Schedule.open_at earliest.1.1,
            le_of_lt after, ?_⟩
          · simp [pass, asked, found, Except.mapError, bind, Except.bind, after]
          · apply ActiveTime.elapsed_eq_zero
            apply Schedule.closed_until closed
            intro boundary member later
            exact earliest.2 ⟨member, later⟩
  | true =>
      have inside : cursor ∈ schedule.openMoments := meaning.mp rfl
      obtain ⟨answer, found, earliest⟩ := keeps.nextClose (.utc cursor)
      rw [instant_utc] at earliest
      cases answer with
      | none =>
          left
          constructor
          · simp [pass, asked, found, Except.mapError, bind, Except.bind]
          · apply ActiveTime.advances_within
            intro moment from' _
            apply Schedule.open_until inside from'
            intro boundary member after
            have never := earliest boundary member
            omega
      | some next =>
          have after : cursor < next.instant := earliest.1.2
          have busy : ∀ moment, cursor ≤ moment → moment < next.instant →
              moment ∈ schedule.openMoments := by
            intro moment from' before
            apply Schedule.open_until inside from'
            intro boundary member later
            exact lt_of_lt_of_le before (earliest.2 ⟨member, later⟩)
          by_cases fits : (remaining : ℤ) ≤ next.instant - cursor
          · left
            constructor
            · simp [pass, asked, found, Except.mapError, bind, Except.bind, after,
                fits]
            · apply ActiveTime.advances_within
              intro moment from' before
              exact busy moment from' (by omega)
          · right
            right
            have counted := ActiveTime.elapsed_eq_sub (le_of_lt after) busy
            refine ⟨next.instant, (next.instant - cursor).toNat, ?_, inside,
              le_of_lt after, by omega, by omega, by omega⟩
            have rest : (remaining : ℤ) - (next.instant - cursor) =
                ((remaining - (next.instant - cursor).toNat : ℕ) : ℤ) := by
              omega
            simp [pass, asked, found, Except.mapError, bind, Except.bind, after,
              fits, rest]

/-- Every pass but a skip uses up open time, and a skip ends at an open moment, so
that twice the remaining time bounds the passes. -/
theorem loop_advances (showRepr : String → String)
    (keeps : calendar.Keeps schedule) :
    ∀ (fuel : ℕ) (cursor : ℤ) (remaining : ℕ),
      2 * remaining + 1 < fuel ∨
        (cursor ∈ schedule.openMoments ∧ 2 * remaining < fuel) →
      ∃ stop, loop calendar showRepr fuel (.utc cursor) remaining =
          some (.ok (.utc stop)) ∧
        ActiveTime.Advances schedule.openMoments cursor remaining stop := by
  intro fuel
  induction fuel with
  | zero =>
      intro cursor remaining enough
      omega
  | succ fuel induction =>
      intro cursor remaining enough
      rcases Nat.eq_zero_or_pos remaining with rfl | positive
      · exact ⟨cursor, by simp [loop], .zero cursor⟩
      · have more : ¬(remaining : ℤ) ≤ 0 := by omega
        rcases pass_spec showRepr keeps cursor remaining with
          ⟨passed, advances⟩ |
            ⟨next, passed, closed, opened, late, idle⟩ |
            ⟨next, used, passed, inside, late, spent, left, counted⟩
        · refine ⟨cursor + remaining, ?_, advances⟩
          rw [loop, if_neg more, passed]
        · have fuelled : 2 * remaining < fuel := by
            rcases enough with enough | ⟨inside, _⟩
            · omega
            · exact absurd inside closed
          obtain ⟨stop, looped, advances⟩ :=
            induction next remaining (.inr ⟨opened, fuelled⟩)
          refine ⟨stop, ?_, ?_⟩
          · rw [loop, if_neg more, passed]
            exact looped
          · have walked := advances.through late positive
            rwa [idle, Nat.zero_add] at walked
        · have fuelled : 2 * (remaining - used) + 1 < fuel := by omega
          obtain ⟨stop, looped, advances⟩ :=
            induction next (remaining - used) (.inl fuelled)
          refine ⟨stop, ?_, ?_⟩
          · rw [loop, if_neg more, passed]
            exact looped
          · have walked := advances.through late (by omega)
            rw [counted] at walked
            rwa [Nat.add_sub_cancel' (le_of_lt left)] at walked

end Loop

/-! ## What the arithmetic returns -/

/-- The walk ends with this result. -/
def Returns (calendar : Protocol ε) (showRepr : String → String)
    (start : DateTime) (duration : ℤ) (result : DateTime) : Prop :=
  ∃ fuel, ∀ more, fuel ≤ more →
    advanceByOpenTime calendar showRepr more start duration =
      some (.ok result)

theorem Returns.unique {calendar : Protocol ε} {showRepr : String → String}
    {start : DateTime} {duration : ℤ} {result other : DateTime}
    (returns : Returns calendar showRepr start duration result)
    (returnsToo : Returns calendar showRepr start duration other) :
    result = other := by
  obtain ⟨fuel, returned⟩ := returns
  obtain ⟨fuelToo, returnedToo⟩ := returnsToo
  have first := returned (max fuel fuelToo) (le_max_left _ _)
  have second := returnedToo (max fuel fuelToo) (le_max_right _ _)
  rw [first] at second
  cases second
  rfl

theorem returns_of_keeps {calendar : Protocol ε} {schedule : Schedule}
    (showRepr : String → String) (keeps : calendar.Keeps schedule)
    (start : DateTime) (duration : ℕ) :
    ∃ stop, Returns calendar showRepr start duration (.utc stop) ∧
      ActiveTime.Advances schedule.openMoments start.instant duration stop := by
  have enough := loop_advances showRepr keeps (2 * duration + 2)
    start.instant duration (.inl (by omega))
  obtain ⟨stop, _, advances⟩ := enough
  refine ⟨stop, ⟨2 * duration + 2, ?_⟩, advances⟩
  intro more fuelled
  obtain ⟨other, looped, advancesToo⟩ := loop_advances showRepr keeps more
    start.instant duration (.inl (by omega))
  have same : other = stop := advancesToo.unique advances
  have valid : ¬(duration : ℤ) < 0 := by omega
  rw [advanceByOpenTime, if_neg valid, asUtc_eq, looped, same]

theorem Returns.advances {calendar : Protocol ε} {schedule : Schedule}
    {showRepr : String → String} (keeps : calendar.Keeps schedule)
    {start result : DateTime} {duration : ℕ}
    (returns : Returns calendar showRepr start duration result) :
    result = .utc result.instant ∧
      ActiveTime.Advances schedule.openMoments start.instant duration
        result.instant := by
  obtain ⟨stop, returnsToo, advances⟩ :=
    returns_of_keeps showRepr keeps start duration
  obtain rfl := returns.unique returnsToo
  simpa using advances

/-! ## The 24x7 session -/

/-- `AlwaysOpenCalendar`. -/
def alwaysOpen : Protocol ε where
  sessionId := "24x7"
  isOpen := fun _ => .ok true
  nextOpen := fun _ => .ok none
  nextClose := fun _ => .ok none

def aroundTheClock : Session where
  opens := ⊥
  closes := ⊤
  inhabited := ⟨0, bot_le, WithTop.coe_lt_top 0⟩

theorem aroundTheClock_contains (moment : ℤ) :
    aroundTheClock.Contains moment :=
  ⟨bot_le, WithTop.coe_lt_top moment⟩

def alwaysOpenSchedule : Schedule where
  sessions := {aroundTheClock}
  disjoint := by
    rintro first rfl second rfl moment _ _
    rfl
  unbounded := by
    intro moment amount
    have busy : ∀ other, moment ≤ other → other < moment + amount →
        other ∈ {moment | ∃ session ∈ ({aroundTheClock} : Set Session),
          session.Contains moment} := by
      intro other _ _
      exact ⟨aroundTheClock, rfl, aroundTheClock_contains other⟩
    refine ⟨moment + amount, by omega, ?_⟩
    rw [(ActiveTime.advances_within busy).1.2]

/-- The always-open calendar keeps its one session. -/
theorem alwaysOpen_keeps :
    (alwaysOpen : Protocol ε).Keeps alwaysOpenSchedule := by
  constructor
  case isOpen =>
    intro moment
    refine ⟨true, rfl, iff_of_true rfl ?_⟩
    exact ⟨aroundTheClock, rfl, aroundTheClock_contains moment.instant⟩
  case nextOpen =>
    intro moment
    refine ⟨none, rfl, ?_⟩
    rintro boundary ⟨session, rfl, opens⟩
    cases opens
  case nextClose =>
    intro moment
    refine ⟨none, rfl, ?_⟩
    rintro boundary ⟨session, rfl, closes⟩
    cases closes

/-! ## Daily sessions -/

def regularHours (day : ℤ) : Session where
  opens := (86400000000 * day + 52200000000 : ℤ)
  closes := (86400000000 * day + 75600000000 : ℤ)
  inhabited := ⟨86400000000 * day + 52200000000, le_refl _, by
    exact WithTop.coe_lt_coe.mpr (by omega)⟩

theorem regularHours_contains (day moment : ℤ) :
    (regularHours day).Contains moment ↔
      86400000000 * day + 52200000000 ≤ moment ∧
        moment < 86400000000 * day + 75600000000 :=
  and_congr WithBot.coe_le_coe WithTop.coe_lt_coe

def daily : Protocol String where
  sessionId := "XNYS"
  isOpen := fun moment =>
    .ok (decide (52200000000 ≤ moment.instant % 86400000000 ∧
      moment.instant % 86400000000 < 75600000000))
  nextOpen := fun moment =>
    .ok (some (.utc (86400000000 *
      ((moment.instant - 52200000000) / 86400000000 + 1) + 52200000000)))
  nextClose := fun moment =>
    .ok (some (.utc (86400000000 *
      ((moment.instant - 75600000000) / 86400000000 + 1) + 75600000000)))

theorem open_daily (moment : ℤ) :
    moment ∈ {moment | ∃ session ∈ Set.range regularHours,
        session.Contains moment} ↔
      52200000000 ≤ moment % 86400000000 ∧
        moment % 86400000000 < 75600000000 := by
  constructor
  · rintro ⟨_, ⟨day, rfl⟩, contains⟩
    rw [regularHours_contains] at contains
    omega
  · intro within
    refine ⟨_, ⟨moment / 86400000000, rfl⟩, ?_⟩
    rw [regularHours_contains]
    omega

def dailySchedule : Schedule where
  sessions := Set.range regularHours
  disjoint := by
    rintro _ ⟨first, rfl⟩ _ ⟨second, rfl⟩ moment inside insideToo
    rw [regularHours_contains] at inside insideToo
    have same : first = second := by omega
    rw [same]
  unbounded := by
    intro moment amount
    refine ⟨moment + 86400000000 * amount, by omega, ?_⟩
    induction amount with
    | zero => exact Nat.zero_le _
    | succ amount induction =>
        -- every day has an open moment
        have next : 0 < ActiveTime.elapsed
            {moment | ∃ session ∈ Set.range regularHours, session.Contains moment}
            (moment + 86400000000 * amount)
            (moment + 86400000000 * (amount + 1 : ℕ)) := by
          have opened := (open_daily (86400000000 * ((moment +
            86400000000 * amount - 52200000001) / 86400000000 + 1) +
              52200000000)).mpr (by omega)
          exact ActiveTime.elapsed_pos (by omega) (by omega) opened
        have past : moment ≤ moment + 86400000000 * amount := by omega
        rw [← ActiveTime.elapsed_add past (by omega)]
        omega

theorem daily_keeps : daily.Keeps dailySchedule := by
  constructor
  case isOpen =>
    intro moment
    refine ⟨_, rfl, ?_⟩
    rw [decide_eq_true_iff]
    exact (open_daily moment.instant).symm
  case nextOpen =>
    intro moment
    refine ⟨_, rfl, ⟨⟨regularHours ((moment.instant - 52200000000) /
      86400000000 + 1), ⟨_, rfl⟩, by rw [instant_utc]; rfl⟩, ?_⟩, ?_⟩
    · rw [instant_utc]
      omega
    · rintro boundary ⟨⟨_, ⟨day, rfl⟩, opens⟩, after⟩
      have spelled : 86400000000 * day + 52200000000 = boundary :=
        WithBot.coe_inj.mp opens
      rw [instant_utc]
      omega
  case nextClose =>
    intro moment
    refine ⟨_, rfl, ⟨⟨regularHours ((moment.instant - 75600000000) /
      86400000000 + 1), ⟨_, rfl⟩, by rw [instant_utc]; rfl⟩, ?_⟩, ?_⟩
    · rw [instant_utc]
      omega
    · rintro boundary ⟨⟨_, ⟨day, rfl⟩, closes⟩, after⟩
      have spelled : 86400000000 * day + 75600000000 = boundary :=
        WithTop.coe_inj.mp closes
      rw [instant_utc]
      omega

/-! ## Exactness -/

/-- The arithmetic of a calendar is exact for the sessions of a schedule. -/
structure AdvancesExactly (calendar : Protocol ε) (showRepr : String → String)
    (schedule : Schedule) : Prop where
  terminates : ∀ start duration, 0 ≤ duration →
    ∃ result, Returns calendar showRepr start duration result
  exact : ∀ start duration result, 0 ≤ duration →
    Returns calendar showRepr start duration result →
    start.instant ≤ result.instant ∧
      (ActiveTime.elapsed schedule.openMoments start.instant result.instant : ℤ) =
        duration
  earliest : ∀ start duration result moment, 0 ≤ duration →
    Returns calendar showRepr start duration result →
    start.instant ≤ moment →
    (ActiveTime.elapsed schedule.openMoments start.instant moment : ℤ) =
      duration →
    result.instant ≤ moment
  monotone : ∀ start later duration longer result lateResult,
    start.instant ≤ later.instant → 0 ≤ duration → duration ≤ longer →
    Returns calendar showRepr start duration result →
    Returns calendar showRepr later longer lateResult →
    result.instant ≤ lateResult.instant
  additive : ∀ start first second middle result, 0 ≤ first → 0 ≤ second →
    Returns calendar showRepr start first middle →
    Returns calendar showRepr middle second result →
    Returns calendar showRepr start (first + second) result

/-- Advancing by open time is exact on every calendar that keeps to the protocol. -/
theorem advance_by_open_time_exact (calendar : Protocol ε) (schedule : Schedule)
    (showRepr : String → String) (keeps : calendar.Keeps schedule) :
    AdvancesExactly calendar showRepr schedule := by
  constructor
  case terminates =>
    intro start duration valid
    lift duration to ℕ using valid
    obtain ⟨stop, returns, _⟩ := returns_of_keeps showRepr keeps start duration
    exact ⟨.utc stop, returns⟩
  case exact =>
    intro start duration result valid returns
    lift duration to ℕ using valid
    obtain ⟨late, spent⟩ := (returns.advances keeps).2.1
    exact ⟨late, by rw [spent]⟩
  case earliest =>
    intro start duration result moment valid returns late spent
    lift duration to ℕ using valid
    apply (returns.advances keeps).2.2
    exact ⟨late, by exact_mod_cast spent⟩
  case monotone =>
    intro start later duration longer result lateResult late valid more returns
      returnsToo
    lift duration to ℕ using valid
    lift longer to ℕ using by omega
    have advances := (returns.advances keeps).2
    exact advances.mono (returnsToo.advances keeps).2 late (by exact_mod_cast more)
  case additive =>
    intro start first second middle result valid validToo returns returnsToo
    lift first to ℕ using valid
    lift second to ℕ using validToo
    have advances := (returns.advances keeps).2
    obtain ⟨utc, onward⟩ := returnsToo.advances keeps
    obtain ⟨stop, together, total⟩ :=
      returns_of_keeps showRepr keeps start (first + second)
    have same : stop = result.instant := total.unique (advances.add onward)
    rw [same, ← utc] at together
    exact_mod_cast together

/-- Eight hours from an evening after the close: a whole session of six and a half
hours on the next day, and one and a half of the day after. -/
theorem daily_advances :
    AdvancesExactly daily id dailySchedule ∧
      advanceByOpenTime daily id 5 { wall := 80000000000, offset := none }
          28800000000 =
        some (.ok (.utc (2 * 86400000000 + 52200000000 + 5400000000))) :=
  ⟨advance_by_open_time_exact daily dailySchedule id daily_keeps, by rfl⟩

end SessionCalendar

end GptTrader
