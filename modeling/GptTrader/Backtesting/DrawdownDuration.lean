import Mathlib.Data.List.Forall2
import Mathlib.Data.List.Induction
import Mathlib.Data.List.Nodup
import Mathlib.Order.Bounds.Basic
import Mathlib.Tactic.Linarith
import Mathlib.Algebra.Order.Field.Rat

/-!
# The drawdown metrics of an equity curve

`_calculate_drawdown_metrics` of `backtesting/metrics/risk.py`, on the points of a
curve.  A drawdown lasts from a point that makes no new high to the next new high; the
first point of the curve makes none, and neither does a point that only reaches the
peak.
-/

namespace GptTrader

/-- The variables of the loop. -/
structure DrawdownScan where
  peak : ℚ
  drawdowns : List ℚ
  drawdownStart : Option ℤ
  maxDuration : ℤ

/-- `(stop - start).days`. -/
def wholeDays (start stop : ℤ) : ℤ :=
  (stop - start) / 86400000000

/-- `(peak - equity) / peak if peak > 0 else 0`. -/
def drawdownPct (peak equity : ℚ) : ℚ :=
  if 0 < peak then (peak - equity) / peak else 0

namespace DrawdownScan

def durationUntil (scan : DrawdownScan) (time : ℤ) : ℤ :=
  match scan.drawdownStart with
  | none => scan.maxDuration
  | some start => max scan.maxDuration (wholeDays start time)

def step (scan : DrawdownScan) (point : ℤ × ℚ) : DrawdownScan :=
  if scan.peak < point.2 then
    { scan with
      peak := point.2
      drawdownStart := none
      maxDuration := scan.durationUntil point.1 }
  else
    { scan with
      drawdowns := scan.drawdowns ++ [drawdownPct scan.peak point.2]
      drawdownStart := some (scan.drawdownStart.getD point.1) }

end DrawdownScan

/-- `_calculate_drawdown_metrics`: `avg_drawdown` and `max_duration`. -/
def calculateDrawdownMetrics (points : List (ℤ × ℚ)) : ℚ × ℤ :=
  match points with
  | [] => (0, 0)
  | first :: rest =>
      let scan := (first :: rest).foldl DrawdownScan.step
        { peak := first.2, drawdowns := [], drawdownStart := none,
          maxDuration := 0 }
      (if scan.drawdowns = [] then 0
        else scan.drawdowns.sum / scan.drawdowns.length * 100,
        scan.durationUntil (rest.getLastD first).1)

/-! ## Drawdowns of a curve -/

/-- A later point above all points before it. -/
def NewHigh (points : List (ℤ × ℚ)) (point : ℤ × ℚ) : Prop :=
  (∃ other ∈ points, other.1 < point.1) ∧
    ∀ other ∈ points, other.1 < point.1 → other.2 < point.2

instance (points : List (ℤ × ℚ)) (point : ℤ × ℚ) :
    Decidable (NewHigh points point) :=
  inferInstanceAs (Decidable (_ ∧ _))

/-- The points that set no new high. -/
def quietPoints (points : List (ℤ × ℚ)) : List (ℤ × ℚ) :=
  points.filter fun point => decide ¬NewHigh points point

def IsDrawdown (points : List (ℤ × ℚ)) (point : ℤ × ℚ) (drawdown : ℚ) : Prop :=
  ∃ peak, IsGreatest { equity | ∃ other ∈ points, other.1 ≤ point.1 ∧
      equity = other.2 } peak ∧ drawdown = drawdownPct peak point.2

/-- No new high is made between a point that makes none and a later one. -/
structure QuietUntil (points : List (ℤ × ℚ)) (start stop : ℤ × ℚ) : Prop where
  started : start ∈ points
  quiet : ¬NewHigh points start
  stopped : stop ∈ points
  ordered : start.1 ≤ stop.1
  between : ∀ other ∈ points, start.1 < other.1 → other.1 < stop.1 →
    ¬NewHigh points other

/-- A drawdown lasts from a point that makes no new high to the next new high, or to
the end of the curve. -/
def DrawdownSpan (points : List (ℤ × ℚ)) (start stop : ℤ × ℚ) : Prop :=
  QuietUntil points start stop ∧
    (NewHigh points stop ∨ ∀ other ∈ points, other.1 ≤ stop.1)

section Appending

variable {points : List (ℤ × ℚ)} {point last : ℤ × ℚ}

theorem newHigh_append (after : ∀ other ∈ points, other.1 < last.1)
    (member : point ∈ points) :
    NewHigh (points ++ [last]) point ↔ NewHigh points point := by
  have never : ¬last.1 < point.1 := not_lt.mpr (after point member).le
  unfold NewHigh
  simp only [List.mem_append, List.mem_singleton, or_and_right, exists_or,
    exists_eq_left, never, or_false, or_imp, forall_and, forall_eq, false_imp_iff,
    and_true]

section

variable (after : ∀ other ∈ points, other.1 < last.1)

include after

theorem newHigh_last {peak : ℚ}
    (greatest : IsGreatest { equity | ∃ other ∈ points, equity = other.2 } peak) :
    NewHigh (points ++ [last]) last ↔ peak < last.2 := by
  obtain ⟨⟨top, member, rfl⟩, above⟩ := greatest
  constructor
  · rintro ⟨_, higher⟩
    exact higher top (List.mem_append_left _ member) (after top member)
  · intro higher
    refine ⟨⟨top, List.mem_append_left _ member, after top member⟩, ?_⟩
    intro other listed before
    rcases List.mem_append.mp listed with earlier | same
    · exact lt_of_le_of_lt (above ⟨other, earlier, rfl⟩) higher
    · rw [List.mem_singleton.mp same] at before
      exact absurd before (lt_irrefl _)

theorem isDrawdown_append (member : point ∈ points) {drawdown : ℚ}
    (known : IsDrawdown points point drawdown) :
    IsDrawdown (points ++ [last]) point drawdown := by
  obtain ⟨peak, ⟨⟨top, listed, until', rfl⟩, above⟩, same⟩ := known
  refine ⟨_, ⟨⟨top, List.mem_append_left _ listed, until', rfl⟩, ?_⟩, same⟩
  rintro _ ⟨other, found, before, rfl⟩
  rcases List.mem_append.mp found with earlier | new
  · exact above ⟨other, earlier, before, rfl⟩
  · rw [List.mem_singleton.mp new] at before
    exact absurd before (not_le.mpr (after point member))

theorem quietPoints_append :
    quietPoints (points ++ [last]) = quietPoints points ++
      if NewHigh (points ++ [last]) last then [] else [last] := by
  unfold quietPoints
  rw [List.filter_append]
  congr 1
  · refine List.filter_congr fun point member => ?_
    exact decide_eq_decide.mpr (not_congr (newHigh_append after member))
  · rw [List.filter_singleton]
    by_cases high : NewHigh (points ++ [last]) last
    · rw [if_pos high, decide_eq_false (not_not.mpr high), cond_false]
    · rw [if_neg high, decide_eq_true high, cond_true]

end

theorem QuietUntil.append {start stop : ℤ × ℚ}
    (span : QuietUntil points start stop)
    (after : ∀ other ∈ points, other.1 < last.1) :
    QuietUntil (points ++ [last]) start stop where
  started := List.mem_append_left _ span.started
  quiet := by
    rw [newHigh_append after span.started]
    exact span.quiet
  stopped := List.mem_append_left _ span.stopped
  ordered := span.ordered
  between := by
    intro other listed from' to'
    rcases List.mem_append.mp listed with earlier | new
    · rw [newHigh_append after earlier]
      exact span.between other earlier from' to'
    · rw [List.mem_singleton.mp new] at to'
      exact absurd (after stop span.stopped) to'.not_gt

theorem QuietUntil.ofAppend {start stop : ℤ × ℚ}
    (span : QuietUntil (points ++ [last]) start stop)
    (after : ∀ other ∈ points, other.1 < last.1) (started : start ∈ points) :
    ¬NewHigh points start ∧ ∀ other ∈ points, start.1 < other.1 →
      other.1 < stop.1 → ¬NewHigh points other := by
  refine ⟨(newHigh_append after started).not.mp span.quiet, ?_⟩
  intro other listed from' to'
  exact (newHigh_append after listed).not.mp
    (span.between other (List.mem_append_left _ listed) from' to')

end Appending

/-! ## What the loop keeps -/

def OpenFrom (points : List (ℤ × ℚ)) (start : ℤ × ℚ) : Prop :=
  start ∈ points ∧ ¬NewHigh points start ∧
    ∀ other ∈ points, start.1 < other.1 → ¬NewHigh points other

/-- The loop knows the peak, the drawdowns, the earliest point of the drawdown that is
still open and the longest of those that ended. -/
structure Scanned (points : List (ℤ × ℚ)) (scan : DrawdownScan) : Prop where
  peak : IsGreatest { equity | ∃ other ∈ points, equity = other.2 } scan.peak
  drawdowns : List.Forall₂ (IsDrawdown points) (quietPoints points) scan.drawdowns
  opened : ∀ start, scan.drawdownStart = some start →
    ∃ point, OpenFrom points point ∧ point.1 = start
  earliest : ∀ point, OpenFrom points point →
    ∃ start, scan.drawdownStart = some start ∧ start ≤ point.1
  longest : ∀ start stop, QuietUntil points start stop → NewHigh points stop →
    wholeDays start.1 stop.1 ≤ scan.maxDuration
  attained : (∃ start stop, QuietUntil points start stop ∧ NewHigh points stop ∧
      wholeDays start.1 stop.1 = scan.maxDuration) ∨
    scan.maxDuration = 0 ∧ scan.drawdownStart ≠ none

theorem wholeDays_mono {start other stop : ℤ} (earlier : start ≤ other) :
    wholeDays other stop ≤ wholeDays start stop := by
  unfold wholeDays
  omega

theorem wholeDays_nonneg {start stop : ℤ} (ordered : start ≤ stop) :
    0 ≤ wholeDays start stop := by
  unfold wholeDays
  omega

section Loop

variable {points : List (ℤ × ℚ)} {scan : DrawdownScan} {last : ℤ × ℚ}

theorem scanned_first (first : ℤ × ℚ) :
    Scanned [first] (DrawdownScan.step
      { peak := first.2, drawdowns := [], drawdownStart := none,
        maxDuration := 0 } first) := by
  have quiet : ∀ point ∈ [first], ¬NewHigh [first] point := by
    rintro point member ⟨⟨other, listed, before⟩, _⟩
    rw [List.mem_singleton.mp member, List.mem_singleton.mp listed] at before
    exact absurd before (lt_irrefl _)
  have greatest : ∀ condition : ℤ × ℚ → Prop, condition first →
      IsGreatest { equity | ∃ other ∈ [first], condition other ∧
        equity = other.2 } first.2 := by
    refine fun condition holds => ⟨⟨first, by simp, holds, rfl⟩, ?_⟩
    rintro _ ⟨other, member, _, rfl⟩
    rw [List.mem_singleton.mp member]
  unfold DrawdownScan.step
  rw [if_neg (lt_irrefl _)]
  refine ⟨by simp, ?_, ?_, ?_, ?_, ?_⟩
  · have all : quietPoints [first] = [first] := by
      unfold quietPoints
      rw [List.filter_eq_self]
      exact fun point member => decide_eq_true (quiet point member)
    rw [all]
    exact .cons ⟨first.2, greatest _ (le_refl _), rfl⟩ .nil
  · intro start same
    obtain rfl := Option.some.inj same
    exact ⟨first, ⟨by simp, quiet first (by simp), fun other listed _ =>
      quiet other listed⟩, rfl⟩
  · rintro point ⟨member, _⟩
    exact ⟨_, rfl, by rw [List.mem_singleton.mp member]; rfl⟩
  · intro start stop span high
    exact absurd high (quiet stop span.stopped)
  · exact .inr ⟨rfl, Option.some_ne_none _⟩

/-- One round keeps what the loop knows. -/
theorem Scanned.step (scanned : Scanned points scan)
    (after : ∀ other ∈ points, other.1 < last.1) :
    Scanned (points ++ [last]) (scan.step last) := by
  have high := newHigh_last after scanned.peak
  obtain ⟨⟨top, listed, peak⟩, above⟩ := scanned.peak
  have member : last ∈ points ++ [last] := by simp
  have kept : List.Forall₂ (IsDrawdown (points ++ [last])) (quietPoints points)
      scan.drawdowns := by
    refine (List.forall₂_iff_zip.mpr
      ⟨scanned.drawdowns.length_eq, fun {point _} pair => ?_⟩)
    have quiet := List.mem_of_mem_filter (List.of_mem_zip pair).1
    exact isDrawdown_append after quiet
      ((List.forall₂_iff_zip.mp scanned.drawdowns).2 pair)
  have old : ∀ start stop, QuietUntil (points ++ [last]) start stop →
      stop ∈ points → QuietUntil points start stop := by
    intro start stop span stopped
    have started : start ∈ points := by
      rcases List.mem_append.mp span.started with earlier | new
      · exact earlier
      · rw [List.mem_singleton.mp new] at span
        exact absurd (after stop stopped) (not_lt.mpr span.ordered)
    obtain ⟨quiet, between⟩ := span.ofAppend after started
    exact ⟨started, quiet, stopped, span.ordered, between⟩
  unfold DrawdownScan.step
  split
  · next higher =>
      have isHigh := high.mpr higher
      have closes : ∀ start, OpenFrom points start →
          QuietUntil (points ++ [last]) start last := by
        rintro start ⟨started, quiet, rest⟩
        refine ⟨List.mem_append_left _ started,
          (newHigh_append after started).not.mpr quiet, member,
          (after start started).le, ?_⟩
        intro other found from' to'
        rcases List.mem_append.mp found with earlier | new
        · exact (newHigh_append after earlier).not.mpr (rest other earlier from')
        · rw [List.mem_singleton.mp new] at to'
          exact absurd to' (lt_irrefl _)
      refine ⟨⟨⟨last, member, rfl⟩, ?_⟩, ?_, nofun, ?_, ?_, ?_⟩
      · rintro _ ⟨other, found, rfl⟩
        rcases List.mem_append.mp found with earlier | new
        · exact (above ⟨other, earlier, rfl⟩).trans higher.le
        · rw [List.mem_singleton.mp new]
      · rw [quietPoints_append after, if_pos isHigh, List.append_nil]
        exact kept
      · rintro point ⟨found, quiet, rest⟩
        rcases List.mem_append.mp found with earlier | new
        · exact absurd isHigh (rest last member (after point earlier))
        · exact absurd isHigh (List.mem_singleton.mp new ▸ quiet)
      · intro start stop span closed
        unfold DrawdownScan.durationUntil
        rcases List.mem_append.mp span.stopped with earlier | new
        · have before := scanned.longest start stop (old start stop span earlier)
            ((newHigh_append after earlier).mp closed)
          split
          · exact before
          · exact le_max_of_le_left before
        · rw [List.mem_singleton.mp new] at span ⊢
          have started : start ∈ points := by
            rcases List.mem_append.mp span.started with earlier | same
            · exact earlier
            · exact absurd isHigh (List.mem_singleton.mp same ▸ span.quiet)
          obtain ⟨quiet, between⟩ := span.ofAppend after started
          obtain ⟨first, found, before⟩ := scanned.earliest start
            ⟨started, quiet, fun other listed from' =>
              between other listed from' (after other listed)⟩
          rw [found]
          exact le_max_of_le_right (wholeDays_mono before)
      · left
        unfold DrawdownScan.durationUntil
        cases found : scan.drawdownStart with
        | none =>
            rcases scanned.attained with ⟨start, stop, span, closed, days⟩ | empty
            · exact ⟨start, stop, span.append after,
                (newHigh_append after span.stopped).mpr closed, days⟩
            · exact absurd found empty.2
        | some first =>
            obtain ⟨start, opened, rfl⟩ := scanned.opened first found
            have closed := closes start opened
            dsimp only
            rcases le_total scan.maxDuration (wholeDays start.1 last.1) with
              longer | shorter
            · exact ⟨start, last, closed, isHigh, (max_eq_right longer).symm⟩
            · rcases scanned.attained with
                ⟨other, stop, span, ended, days⟩ | ⟨zero, _⟩
              · exact ⟨other, stop, span.append after,
                  (newHigh_append after span.stopped).mpr ended,
                  days.trans (max_eq_left shorter).symm⟩
              · refine ⟨start, last, closed, isHigh, (max_eq_right ?_).symm⟩
                rw [zero]
                exact wholeDays_nonneg closed.ordered
  · next lower =>
      have notHigh := mt high.mp lower
      have opens : ∀ start, OpenFrom points start →
          OpenFrom (points ++ [last]) start := by
        rintro start ⟨started, quiet, rest⟩
        refine ⟨List.mem_append_left _ started,
          (newHigh_append after started).not.mpr quiet, ?_⟩
        intro other found from'
        rcases List.mem_append.mp found with earlier | new
        · exact (newHigh_append after earlier).not.mpr (rest other earlier from')
        · rwa [List.mem_singleton.mp new]
      have opensOld : ∀ start ∈ points, OpenFrom (points ++ [last]) start →
          OpenFrom points start := by
        rintro start started ⟨_, quiet, rest⟩
        exact ⟨started, (newHigh_append after started).not.mp quiet,
          fun other listed from' => (newHigh_append after listed).not.mp
            (rest other (List.mem_append_left _ listed) from')⟩
      have lastOpen : OpenFrom (points ++ [last]) last := by
        refine ⟨member, notHigh, fun other found from' => ?_⟩
        rcases List.mem_append.mp found with earlier | new
        · exact absurd (after other earlier) from'.not_gt
        · rwa [List.mem_singleton.mp new]
      refine ⟨⟨⟨top, List.mem_append_left _ listed, peak⟩, ?_⟩, ?_, ?_, ?_, ?_, ?_⟩
      · rintro _ ⟨other, found, rfl⟩
        rcases List.mem_append.mp found with earlier | new
        · exact above ⟨other, earlier, rfl⟩
        · rw [List.mem_singleton.mp new]
          exact not_lt.mp lower
      · rw [quietPoints_append after, if_neg notHigh]
        refine List.rel_append kept (.cons ⟨scan.peak, ⟨?_, ?_⟩, rfl⟩ .nil)
        · exact ⟨top, List.mem_append_left _ listed, (after top listed).le, peak⟩
        · rintro _ ⟨other, found, _, rfl⟩
          rcases List.mem_append.mp found with earlier | new
          · exact above ⟨other, earlier, rfl⟩
          · rw [List.mem_singleton.mp new]
            exact not_lt.mp lower
      · intro start same
        obtain rfl := Option.some.inj same
        cases found : scan.drawdownStart with
        | none => exact ⟨last, lastOpen, rfl⟩
        | some start =>
            obtain ⟨point, opened, same⟩ := scanned.opened start found
            exact ⟨point, opens point opened, same⟩
      · intro point opened
        refine ⟨_, rfl, ?_⟩
        rcases List.mem_append.mp opened.1 with earlier | new
        · obtain ⟨start, found, before⟩ :=
            scanned.earliest point (opensOld point earlier opened)
          rwa [found]
        · rw [List.mem_singleton.mp new]
          cases found : scan.drawdownStart with
          | none => exact le_refl _
          | some start =>
              obtain ⟨other, ⟨listed, _⟩, rfl⟩ := scanned.opened start found
              exact (after other listed).le
      · intro start stop span closed
        rcases List.mem_append.mp span.stopped with earlier | new
        · exact scanned.longest start stop (old start stop span earlier)
            ((newHigh_append after earlier).mp closed)
        · exact absurd (List.mem_singleton.mp new ▸ closed) notHigh
      · rcases scanned.attained with ⟨start, stop, span, closed, days⟩ | ⟨zero, _⟩
        · exact .inl ⟨start, stop, span.append after,
            (newHigh_append after span.stopped).mpr closed, days⟩
        · exact .inr ⟨zero, Option.some_ne_none _⟩

/-- The scan finds the longest drawdown. -/
theorem Scanned.isGreatest (scanned : Scanned points scan)
    (times : (points.map Prod.fst).Nodup) (member : last ∈ points)
    (ends : ∀ other ∈ points, other.1 ≤ last.1) :
    IsGreatest { days | ∃ start stop, DrawdownSpan points start stop ∧
      days = wholeDays start.1 stop.1 } (scan.durationUntil last.1) := by
  have within : scan.maxDuration ≤ scan.durationUntil last.1 := by
    unfold DrawdownScan.durationUntil
    split
    · exact le_refl _
    · exact le_max_left _ _
  constructor
  · unfold DrawdownScan.durationUntil
    cases found : scan.drawdownStart with
    | none =>
        rcases scanned.attained with ⟨start, stop, span, closed, days⟩ | empty
        · exact ⟨start, stop, ⟨span, .inl closed⟩, days.symm⟩
        · exact absurd found empty.2
    | some first =>
        obtain ⟨start, ⟨started, quiet, rest⟩, rfl⟩ := scanned.opened first found
        have open' : DrawdownSpan points start last :=
          ⟨⟨started, quiet, member, ends start started, fun other listed from' _ =>
            rest other listed from'⟩, .inr ends⟩
        dsimp only
        rcases le_total scan.maxDuration (wholeDays start.1 last.1) with
          longer | shorter
        · exact ⟨start, last, open', max_eq_right longer⟩
        · rcases scanned.attained with
            ⟨other, stop, span, ended, days⟩ | ⟨zero, _⟩
          · exact ⟨other, stop, ⟨span, .inl ended⟩,
              (max_eq_left shorter).trans days.symm⟩
          · refine ⟨start, last, open', max_eq_right ?_⟩
            rw [zero]
            exact wholeDays_nonneg open'.1.ordered
  · rintro _ ⟨start, stop, ⟨span, ended⟩, rfl⟩
    by_cases high : NewHigh points stop
    · exact (scanned.longest start stop span high).trans within
    · have latest := ended.resolve_left high
      have same : stop = last := List.inj_on_of_nodup_map times span.stopped member
        (le_antisymm (ends stop span.stopped) (latest last member))
      subst same
      obtain ⟨first, found, before⟩ := scanned.earliest start
        ⟨span.started, span.quiet, fun other listed from' => by
          rcases (ends other listed).lt_or_eq with earlier | equal
          · exact span.between other listed from' earlier
          · rwa [List.inj_on_of_nodup_map times listed member equal]⟩
      unfold DrawdownScan.durationUntil
      rw [found]
      exact le_max_of_le_right (wholeDays_mono before)

end Loop

theorem scanned_all (first : ℤ × ℚ) (rest : List (ℤ × ℚ))
    (increasing : (first :: rest).Pairwise fun left right => left.1 < right.1) :
    Scanned (first :: rest) ((first :: rest).foldl DrawdownScan.step
      { peak := first.2, drawdowns := [], drawdownStart := none,
        maxDuration := 0 }) := by
  induction rest using List.reverseRecOn with
  | nil => exact scanned_first first
  | append_singleton rest last induction =>
      rw [← List.cons_append] at increasing ⊢
      obtain ⟨before, _, after⟩ := List.pairwise_append.mp increasing
      rw [List.foldl_append]
      exact (induction before).step
        fun other member => after other member last (by simp)

/-- The duration is the greatest number of whole days from a point that makes no new
high to the next new high or the end of the curve, and the average is over the points
that make no new high.  Of the empty curve both are 0. -/
theorem drawdown_metrics_spec (points : List (ℤ × ℚ))
    (increasing : points.Pairwise fun left right => left.1 < right.1) :
    (points ≠ [] →
      IsGreatest { days | ∃ start stop, DrawdownSpan points start stop ∧
          days = wholeDays start.1 stop.1 } (calculateDrawdownMetrics points).2 ∧
        ∃ drawdowns, List.Forall₂ (IsDrawdown points) (quietPoints points)
            drawdowns ∧ drawdowns ≠ [] ∧
          (calculateDrawdownMetrics points).1 =
            drawdowns.sum / drawdowns.length * 100) ∧
      (points = [] → calculateDrawdownMetrics points = (0, 0)) := by
  cases points with
  | nil => exact ⟨fun some => absurd rfl some, fun _ => rfl⟩
  | cons first rest =>
      refine ⟨fun _ => ?_, fun empty => absurd empty (List.cons_ne_nil first rest)⟩
      have scanned := scanned_all first rest increasing
      unfold calculateDrawdownMetrics
      dsimp only
      generalize (first :: rest).foldl DrawdownScan.step _ = scan at scanned ⊢
      have ends : rest.getLastD first ∈ first :: rest ∧
          ∀ other ∈ first :: rest, other.1 ≤ (rest.getLastD first).1 := by
        rcases List.eq_nil_or_concat rest with rfl | ⟨earlier, last, rfl⟩
        · simp
        · rw [List.concat_eq_append, ← List.cons_append] at increasing ⊢
          obtain ⟨_, _, after⟩ := List.pairwise_append.mp increasing
          rw [List.getLastD_concat]
          refine ⟨by simp, fun other member => ?_⟩
          rcases List.mem_append.mp member with before | same
          · exact (after other before last (by simp)).le
          · rw [List.mem_singleton.mp same]
      generalize rest.getLastD first = last at ends ⊢
      have calm : first ∈ quietPoints (first :: rest) := by
        refine List.mem_filter.mpr ⟨by simp, decide_eq_true ?_⟩
        rintro ⟨⟨other, member, before⟩, _⟩
        rcases List.mem_cons.mp member with rfl | later
        · exact absurd before (lt_irrefl _)
        · exact absurd ((List.pairwise_cons.mp increasing).1 other later)
            before.not_gt
      have counted : scan.drawdowns ≠ [] := by
        intro none
        have known := scanned.drawdowns
        rw [none, List.forall₂_nil_right_iff] at known
        rw [known] at calm
        cases calm
      have times : ((first :: rest).map Prod.fst).Nodup :=
        List.pairwise_map.mpr (increasing.imp fun before => before.ne)
      refine ⟨scanned.isGreatest times ends.1 ends.2, scan.drawdowns,
        scanned.drawdowns, counted, ?_⟩
      rw [if_neg counted]

/-- A curve that falls, comes back to its peak and rises. -/
theorem recovered_curve_metrics :
    calculateDrawdownMetrics [(0, 100), (86400000000, 90), (172800000000, 100),
        (259200000000, 110)] = (10 / 3, 3) ∧
      IsGreatest { days | ∃ start stop, DrawdownSpan [(0, 100), (86400000000, 90),
          (172800000000, 100), (259200000000, 110)] start stop ∧
        days = wholeDays start.1 stop.1 } 3 :=
  ⟨by decide +kernel, ((drawdown_metrics_spec [(0, 100), (86400000000, 90),
    (172800000000, 100), (259200000000, 110)] (by decide)).1
      (List.cons_ne_nil _ _)).1⟩

/-- A curve that never falls has a duration, and the point at the peak is averaged. -/
theorem rising_curve_has_duration :
    (calculateDrawdownMetrics [(0, 100), (86400000000, 110)]).2 = 1 ∧
      (calculateDrawdownMetrics [(0, 100), (3600000000, 90)]).1 = 5 := by
  decide +kernel

end GptTrader
