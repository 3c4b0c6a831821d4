import Mathlib.Algebra.Order.Field.Rat
import Mathlib.Data.NNRat.Defs
import GptTrader.Library.TimeWindows

/-!
# Pacing of requests

`CoinbaseClientBase._check_rate_limit` for requests that are made one at a time: the
moments of the requests in the window behind now, a proactive delay as the window fills
up, and a sleep until the oldest request has left a full window.  The clock does not go
back and a sleep lasts at least as long as it was asked for.
-/

namespace GptTrader

inductive ThrottleError where
  | zeroDivisionError
  | indexError

/-- What `_check_rate_limit` reads of the client and of the configuration. -/
structure RequestThrottle where
  enableThrottle : Bool
  rateLimitPerMinute : ℤ
  windowSeconds : ℚ
  adaptiveThrottleEnabled : Bool
  throttleTarget : ℚ

namespace RequestThrottle

open TimeWindows

variable (throttle : RequestThrottle)

/-- The delay of the adaptive pacing with a number of requests in the window. -/
def pacingDelay (count : ℕ) : Option ℚ :=
  let currentUsage : ℚ := count / throttle.rateLimitPerMinute
  if throttle.adaptiveThrottleEnabled = true ∧ throttle.throttleTarget ≤ currentUsage then
    let delay := min ((currentUsage - throttle.throttleTarget) * (1 / 2)) 1
    if 1 / 100 < delay then some delay else none
  else none

/-- The reading after the pacing, and the requests in the window then. -/
def paced (now : ℚ) (late : ℚ≥0) (requestTimes : List ℚ) : ℚ × List ℚ :=
  let held := recent throttle.windowSeconds now requestTimes
  match throttle.pacingDelay held.length with
  | some delay =>
      let woken := now + delay + late
      (woken, recent throttle.windowSeconds woken held)
  | none => (now, held)

/-- The moment the request is let through, and the moments that are kept; a sleep may
last longer than asked for. -/
def checkRateLimit (now : ℚ) (paceLate sleepLate : ℚ≥0) (requestTimes : List ℚ) :
    Except ThrottleError (ℚ × List ℚ) :=
  if throttle.enableThrottle = false then .ok (now, requestTimes)
  else if throttle.rateLimitPerMinute = 0 then .error .zeroDivisionError
  else
    let paced := throttle.paced now paceLate requestTimes
    if throttle.rateLimitPerMinute ≤ paced.2.length then
      match paced.2 with
      | [] => .error .indexError
      | oldest :: _ =>
          let sleepTime := throttle.windowSeconds - (paced.1 - oldest) + 1
          let woken := paced.1 + max 0 sleepTime + sleepLate
          .ok (woken, recent throttle.windowSeconds woken paced.2 ++ [woken])
    else .ok (paced.1, paced.2 ++ [paced.1])

theorem paced_spec (now : ℚ) (late : ℚ≥0) (requestTimes : List ℚ) :
    now ≤ (throttle.paced now late requestTimes).1 ∧
      (throttle.paced now late requestTimes).2 = recent throttle.windowSeconds
        (throttle.paced now late requestTimes).1 requestTimes := by
  have waited : ∀ count delay, throttle.pacingDelay count = some delay → 0 < delay := by
    intro count delay delayed
    unfold pacingDelay at delayed
    dsimp only at delayed
    split at delayed
    · split at delayed
      · next enough =>
          obtain rfl := Option.some.inj delayed
          exact lt_trans (by norm_num) enough
      · cases delayed
    · cases delayed
  unfold paced
  dsimp only
  split
  · next delay delayed =>
      have positive := waited _ delay delayed
      have further : now ≤ now + delay + late := by
        linarith [late.coe_nonneg]
      exact ⟨further, recent_recent further requestTimes⟩
  · exact ⟨le_rfl, rfl⟩

variable {throttle}

/-- A check waits until the window has room. -/
theorem checkRateLimit_spec (enabled : throttle.enableThrottle = true)
    (positive : 0 < throttle.rateLimitPerMinute) (now : ℚ) (paceLate sleepLate : ℚ≥0)
    {requestTimes : List ℚ}
    (few : (requestTimes.length : ℤ) ≤ throttle.rateLimitPerMinute) :
    ∃ moment, throttle.checkRateLimit now paceLate sleepLate requestTimes =
        .ok (moment, recent throttle.windowSeconds moment requestTimes ++ [moment]) ∧
      now ≤ moment ∧ ((recent throttle.windowSeconds moment requestTimes).length : ℤ) <
        throttle.rateLimitPerMinute := by
  obtain ⟨further, held⟩ := paced_spec throttle now paceLate requestTimes
  unfold checkRateLimit
  rw [if_neg (by rw [enabled]; decide), if_neg positive.ne']
  generalize throttle.paced now paceLate requestTimes = paced at further held ⊢
  obtain ⟨reading, window⟩ := paced
  dsimp only at further held ⊢
  split
  · next full =>
      cases window with
      | nil => exact absurd full (not_le.mpr positive)
      | cons oldest rest =>
          have inside : reading - oldest < throttle.windowSeconds := by
            have member : oldest ∈ recent throttle.windowSeconds reading requestTimes :=
              held ▸ List.mem_cons_self
            exact of_decide_eq_true (List.mem_filter.mp member).2
          obtain ⟨woken, wakes⟩ : ∃ woken : ℚ, woken = reading +
              max 0 (throttle.windowSeconds - (reading - oldest) + 1) + sleepLate := ⟨_, rfl⟩
          dsimp only
          rw [← wakes]
          rw [max_eq_right (by linarith)] at wakes
          have late := sleepLate.coe_nonneg
          have later : reading ≤ woken := by linarith
          -- The oldest request is the one that has left the window after the sleep.
          have left : recent throttle.windowSeconds woken requestTimes =
              recent throttle.windowSeconds woken rest := by
            rw [← recent_recent later, ← held]
            apply List.filter_cons_of_neg
            rw [decide_eq_true_iff]
            linarith
          refine ⟨woken, by rw [held, recent_recent later], further.trans later, ?_⟩
          have kept : (oldest :: rest).length ≤ requestTimes.length :=
            held ▸ List.length_filter_le _ _
          have fewer : (recent throttle.windowSeconds woken rest).length ≤ rest.length :=
            List.length_filter_le _ _
          rw [List.length_cons] at kept
          rw [left]
          omega
  · next room => exact ⟨reading, by rw [held], further, by rw [← held]; omega⟩

/-! ## Runs -/

/-- A request: how long after the one before it, and how much longer than asked for its
sleeps last. -/
structure Ask where
  gap : ℚ≥0
  paceLate : ℚ≥0
  sleepLate : ℚ≥0

structure PacedRun where
  clock : ℚ
  requestTimes : List ℚ
  granted : List ℚ

variable (throttle) in
def request (run : PacedRun) (ask : Ask) : Except ThrottleError PacedRun := do
  let passed ← throttle.checkRateLimit (run.clock + ask.gap) ask.paceLate ask.sleepLate
    run.requestTimes
  pure
    { clock := passed.1
      requestTimes := passed.2
      granted := run.granted ++ [passed.1] }

/-- The kept moments are those of the requests in the window, and the requests were
admitted with room in it. -/
structure Paces (throttle : RequestThrottle) (run : PacedRun) : Prop where
  held : run.requestTimes = recent throttle.windowSeconds run.clock run.granted
  few : (run.requestTimes.length : ℤ) ≤ throttle.rateLimitPerMinute
  latest : ∀ moment ∈ run.granted, moment ≤ run.clock
  admitted : Admitted throttle.windowSeconds throttle.rateLimitPerMinute.toNat run.granted

theorem paces_request (enabled : throttle.enableThrottle = true)
    (positive : 0 < throttle.rateLimitPerMinute) (wide : 0 < throttle.windowSeconds)
    {run : PacedRun} (paces : Paces throttle run) (ask : Ask) :
    ∃ next, throttle.request run ask = .ok next ∧ Paces throttle next ∧
      next.granted.length = run.granted.length + 1 := by
  obtain ⟨moment, passed, further, room⟩ := checkRateLimit_spec enabled positive
    (run.clock + ask.gap) ask.paceLate ask.sleepLate paces.few
  have later : run.clock ≤ moment := by linarith [ask.gap.coe_nonneg]
  have order : ∀ other ∈ run.granted, other ≤ moment :=
    fun other member => (paces.latest other member).trans later
  have held : recent throttle.windowSeconds moment run.requestTimes =
      recent throttle.windowSeconds moment run.granted := by
    rw [paces.held, recent_recent later]
  rw [held] at passed room
  unfold request
  rw [passed]
  refine ⟨_, rfl, ?_, by rw [List.length_append, List.length_singleton]⟩
  constructor
  case held =>
    unfold recent
    rw [List.filter_append, List.filter_cons_of_pos (by simpa using wide)]
    rfl
  case few =>
    rw [List.length_append, List.length_singleton]
    omega
  case latest =>
    rw [List.forall_mem_append, List.forall_mem_singleton]
    exact ⟨order, le_rfl⟩
  case admitted =>
    refine paces.admitted.snoc order ?_
    change (recent throttle.windowSeconds moment run.granted).length < _
    omega

variable (throttle) in
/-- No window holds more requests than the limit. -/
theorem granted_in_window (enabled : throttle.enableThrottle = true)
    (positive : 0 < throttle.rateLimitPerMinute) (wide : 0 < throttle.windowSeconds)
    (start : ℚ) (asks : List Ask) :
    ∃ run, asks.foldlM throttle.request ⟨start, [], []⟩ = .ok run ∧
      run.granted.length = asks.length ∧
      ∀ finish, ((run.granted.filter fun moment =>
          decide (finish - throttle.windowSeconds < moment ∧ moment ≤ finish)).length : ℤ) ≤
        throttle.rateLimitPerMinute := by
  have ends : ∃ run, asks.foldlM throttle.request ⟨start, [], []⟩ = .ok run ∧
      Paces throttle run ∧ run.granted.length = asks.length := by
    induction asks using List.reverseRecOn with
    | nil =>
        refine ⟨_, rfl, ⟨rfl, positive.le, ?_, .nil⟩, rfl⟩
        intro moment member
        cases member
    | append_singleton asks ask induction =>
        obtain ⟨run, reached, paces, count⟩ := induction
        obtain ⟨next, passed, kept, more⟩ := paces_request enabled positive wide paces ask
        refine ⟨next, ?_, kept, by rw [more, count, List.length_append]; rfl⟩
        rw [List.foldlM_append, reached]
        change (throttle.request run ask >>= pure) = _
        rw [passed]
        rfl
  obtain ⟨run, reached, paces, count⟩ := ends
  refine ⟨run, reached, count, fun finish => ?_⟩
  have most := paces.admitted.length_window finish
  omega

/-- The third of three requests at once waits until the window is free again. -/
theorem granted_in_two_minutes :
    ∃ run, [⟨1, 0, 0⟩, ⟨0, 0, 0⟩, ⟨0, 0, 0⟩].foldlM (request ⟨true, 2, 60, true, 7 / 10⟩)
        ⟨0, [], []⟩ = .ok run ∧ run.granted = [1, 1, 62] ∧
      ∀ finish, ((run.granted.filter fun moment =>
          decide (finish - 60 < moment ∧ moment ≤ finish)).length : ℤ) ≤ 2 := by
  obtain ⟨run, reached, _, kept⟩ := granted_in_window ⟨true, 2, 60, true, 7 / 10⟩ rfl
    (by decide) (by norm_num) 0 [⟨1, 0, 0⟩, ⟨0, 0, 0⟩, ⟨0, 0, 0⟩]
  refine ⟨run, reached, ?_, kept⟩
  have granted : ([⟨1, 0, 0⟩, ⟨0, 0, 0⟩, ⟨0, 0, 0⟩].foldlM
      (request ⟨true, 2, 60, true, 7 / 10⟩) ⟨0, [], []⟩).toOption.map PacedRun.granted =
        some [1, 1, 62] := by
    decide +kernel
  rw [reached] at granted
  exact Option.some.inj granted

end RequestThrottle

end GptTrader
