import Mathlib.Data.List.Sort
import GptTrader.TradeIdeas.ServiceRuns

/-!
# The window of the promotion scorecard

`trade_ideas/scorecard.py` and `trade_ideas/lifecycle.py`: the observation window is
as long as the threshold says, or reaches back to the closing that completes the count
of terminal ideas.  A filled idea inside its horizon is terminal, but is no closed
idea for the gates.  The other gates and the checks of the loop are left out.
-/

namespace GptTrader

inductive LifecycleClassification where
  | notApplicable
  | openFilled
  | closed
  | overdueUnattributed
  deriving DecidableEq

/-- Where an idea is in its life. -/
def classifyLifecycle (view : TradeIdeaView) (now : ℤ) : LifecycleClassification :=
  if view.idea.reducing then .notApplicable
  else if view.state.terminal = false then .notApplicable
  else if view.closeoutAttribution.isSome then .closed
  else
    match view.state, view.idea.timeHorizon.expiresAt with
    | .filled, some expiresAt =>
        if now < expiresAt then .openFilled else .overdueUnattributed
    | _, _ => .overdueUnattributed

/-- A view of the service: its history is not empty. -/
structure RecordedView extends TradeIdeaView where
  recorded : events ≠ []

namespace RecordedView

/-- The time of the last event. -/
def closedAt (view : RecordedView) : ℤ :=
  (view.events.getLast view.recorded).timestamp

def openedAt (view : RecordedView) : ℤ :=
  (view.events.head view.recorded).timestamp

/-- The idea is over and holds no open fill. -/
def counted (now : ℤ) (view : RecordedView) : Bool :=
  view.state.terminal &&
    decide (classifyLifecycle view.toTradeIdeaView now ≠ .openFilled)

end RecordedView

/-- The thresholds that the window and the depth gate read. -/
structure ScorecardThresholds where
  minClosedIdeas : ℕ
  minWindowDays : ℤ

section Scorecard

variable (views : List RecordedView) (now : ℤ) (thresholds : ScorecardThresholds)

def closedAtDesc (selects : RecordedView → Bool) : List ℤ :=
  ((views.filter fun view => selects view && decide (view.closedAt ≤ now)).map
    RecordedView.closedAt).insertionSort fun left right => right ≤ left

def dayStart : ℤ :=
  now - thresholds.minWindowDays * ApprovalPolicy.hours 24

def observationWindowStart : ℤ :=
  let start := dayStart now thresholds
  let closed := closedAtDesc views now fun view => view.state.terminal
  let countStart :=
    match closed[thresholds.minClosedIdeas - 1]? with
    | some time => time
    | none => closed.getLastD start
  min start countStart

/-- The counted ideas of the window. -/
def closedInWindow : List RecordedView :=
  views.filter fun view => view.counted now &&
    decide (observationWindowStart views now thresholds ≤ view.closedAt ∧
      view.closedAt ≤ now)

/-- What `_depth_gate` measures, and whether both bounds are met. -/
structure DepthGate where
  closedIdeaCount : ℕ
  trailAgeDays : ℤ
  depthMet : Bool
  spanMet : Bool

/-- Enough ideas over enough days. -/
def depthGate (inWindow : List RecordedView) : DepthGate :=
  let age :=
    match (views.map RecordedView.openedAt).min? with
    | some first => (now - first) / ApprovalPolicy.hours 24
    | none => 0
  { closedIdeaCount := inWindow.length
    trailAgeDays := age
    depthMet := decide (thresholds.minClosedIdeas ≤ inWindow.length)
    spanMet := decide (thresholds.minWindowDays ≤ age) }

/-- The views that `build_stage_promotion_scorecard` looks at. -/
def scorecardViews : List RecordedView :=
  views.filter fun view => !view.idea.reducing

/-- `track_record_depth` of `build_stage_promotion_scorecard`. -/
def trackRecordDepth : DepthGate :=
  let entries := scorecardViews views
  depthGate entries now thresholds (closedInWindow entries now thresholds)

end Scorecard

/-! ## When the window keeps enough closed ideas -/

/-- In descending order, as many items reach a bound as stand before the first one
that does not. -/
theorem lt_length_filter_iff {items : List ℤ}
    (sorted : items.Pairwise fun left right => right ≤ left) (bound : ℤ)
    (index : ℕ) :
    index < (items.filter fun item => decide (bound ≤ item)).length ↔
      ∃ item, items[index]? = some item ∧ bound ≤ item := by
  induction items generalizing index with
  | nil => simp
  | cons first rest induction =>
      obtain ⟨below, later⟩ := List.pairwise_cons.mp sorted
      by_cases reached : bound ≤ first
      · rw [List.filter_cons_of_pos (by simpa using reached), List.length_cons]
        cases index with
        | zero => simp [reached]
        | succ index =>
            rw [List.getElem?_cons_succ, ← induction later index]
            omega
      · have none : rest.filter (fun item => decide (bound ≤ item)) = [] := by
          rw [List.filter_eq_nil_iff]
          intro item member
          have := below item member
          simp only [decide_eq_true_eq]
          omega
        rw [List.filter_cons_of_neg (by simpa using reached), none]
        constructor
        · intro less
          exact absurd less (Nat.not_lt_zero _)
        · rintro ⟨item, found, above⟩
          cases index with
          | zero =>
              cases found
              exact absurd above reached
          | succ index =>
              rw [List.getElem?_cons_succ] at found
              have := below item (List.mem_of_getElem? found)
              omega

section Windows

variable {views : List RecordedView} {now : ℤ} {thresholds : ScorecardThresholds}

theorem length_closedInWindow :
    (closedInWindow views now thresholds).length =
      ((closedAtDesc views now (RecordedView.counted now)).filter fun time =>
        decide (observationWindowStart views now thresholds ≤ time)).length := by
  have same := ((List.perm_insertionSort (fun left right : ℤ => right ≤ left)
    ((views.filter fun view => view.counted now &&
      decide (view.closedAt ≤ now)).map RecordedView.closedAt)).filter fun time =>
        decide (observationWindowStart views now thresholds ≤ time)).length_eq
  unfold closedAtDesc
  rw [same, List.filter_map, List.length_map, List.filter_filter]
  unfold closedInWindow
  congr 1
  refine List.filter_congr fun view _ => ?_
  simp only [Function.comp_apply, Bool.decide_and]
  rw [Bool.and_left_comm]

theorem pairwise_closedAtDesc (selects : RecordedView → Bool) :
    (closedAtDesc views now selects).Pairwise fun left right => right ≤ left := by
  have total : Std.Total fun left right : ℤ => right ≤ left :=
    ⟨fun left right => le_total right left⟩
  have transitive : IsTrans ℤ fun left right => right ≤ left :=
    ⟨fun _ _ _ first second => second.trans first⟩
  exact List.pairwise_insertionSort _ _

theorem length_counted_le :
    (closedAtDesc views now (RecordedView.counted now)).length ≤
      (closedAtDesc views now fun view => view.state.terminal).length := by
  unfold closedAtDesc
  rw [List.length_insertionSort, List.length_insertionSort, List.length_map,
    List.length_map]
  refine List.Sublist.length_le (List.monotone_filter_right _ fun view => ?_)
  unfold RecordedView.counted
  simp only [Bool.and_eq_true]
  exact fun ⟨⟨terminal, _⟩, before⟩ => ⟨terminal, before⟩

end Windows

/-- The window keeps enough closed ideas exactly when the closing that completes their
count is within the days or not before the one that completes the terminal ideas. -/
theorem window_keeps_enough_iff (views : List RecordedView) (now : ℤ)
    (thresholds : ScorecardThresholds) (enough : 1 ≤ thresholds.minClosedIdeas) :
    let entries := scorecardViews views
    let counted := closedAtDesc entries now (RecordedView.counted now)
    let terminal := closedAtDesc entries now fun view => view.state.terminal
    (observationWindowStart entries now thresholds ≤ dayStart now thresholds ∧
        (thresholds.minClosedIdeas ≤ counted.length →
          (trackRecordDepth views now thresholds).depthMet = true)) ↔
      ∀ last, counted[thresholds.minClosedIdeas - 1]? = some last →
        dayStart now thresholds ≤ last ∨
          ∀ reached, terminal[thresholds.minClosedIdeas - 1]? = some reached →
            reached ≤ last := by
  intro entries counted terminal
  have depth : (trackRecordDepth views now thresholds).depthMet = true ↔
      thresholds.minClosedIdeas ≤
        (closedInWindow entries now thresholds).length := decide_eq_true_iff
  obtain ⟨index, count⟩ : ∃ index, thresholds.minClosedIdeas = index + 1 :=
    ⟨_, (Nat.sub_add_cancel enough).symm⟩
  have start : observationWindowStart entries now thresholds =
      min (dayStart now thresholds) (match terminal[index]? with
        | some time => time
        | none => terminal.getLastD (dayStart now thresholds)) := by
    unfold observationWindowStart
    rw [count, Nat.add_sub_cancel]
  have early : observationWindowStart entries now thresholds ≤
      dayStart now thresholds := by
    rw [start]
    exact min_le_left _ _
  rw [and_iff_right early, depth, length_closedInWindow, count, Nat.add_sub_cancel,
    Nat.succ_le_iff, Nat.succ_le_iff,
    lt_length_filter_iff (pairwise_closedAtDesc _)]
  change (index < counted.length → ∃ item, counted[index]? = some item ∧ _) ↔ _
  have known : ∀ last, counted[index]? = some last →
      ∃ reached, terminal[index]? = some reached := by
    intro last found
    obtain ⟨inside, _⟩ := List.getElem?_eq_some_iff.mp found
    exact ⟨_, List.getElem?_eq_getElem (inside.trans_le length_counted_le)⟩
  constructor
  · intro kept last found
    obtain ⟨inside, _⟩ := List.getElem?_eq_some_iff.mp found
    obtain ⟨item, same, within⟩ := kept inside
    obtain rfl := Option.some.inj (found.symm.trans same)
    obtain ⟨reached, ends⟩ := known last found
    rw [start, ends, min_le_iff] at within
    refine within.imp_right fun below other equal => ?_
    obtain rfl := Option.some.inj (ends.symm.trans equal)
    exact below
  · intro condition inside
    refine ⟨_, List.getElem?_eq_getElem inside, ?_⟩
    obtain ⟨reached, ends⟩ := known _ (List.getElem?_eq_getElem inside)
    rw [start, ends, min_le_iff]
    exact (condition _ (List.getElem?_eq_getElem inside)).imp_right
      fun below => below reached ends

section Examples

def scoreDay (count : ℕ) : ℤ :=
  ApprovalPolicy.hours (24 * count)

/-- A paper idea that came to rest in a state on a day, and expires on another. -/
def restingView (action : AuditAction) (day expiry : ℕ) : RecordedView :=
  { idea :=
      { paperIdea "entry-1" entry_safe with
        timeHorizon :=
          { expectedHold := "one day"
            expiresAt := some (scoreDay expiry) } }
    state := action.afterState
    events := [
      { eventId := "0"
        timestamp := scoreDay day
        decisionId := "entry-1"
        actorType := .system
        actorId := "operator"
        action := action
        beforeState := none
        afterState := action.afterState
        reason := ""
        recordHash := ""
        evidence := []
        venue := ""
        externalOrderId := "" }]
    closeoutAttribution := none
    recorded := List.cons_ne_nil _ _ }

def oneIdea : ScorecardThresholds :=
  { minClosedIdeas := 1
    minWindowDays := 60 }

/-- An old idea that was cancelled after an open position was filled is kept. -/
theorem cancelled_idea_is_kept :
    let views := [restingView .cancelled 39 40, restingView .filled 20 101]
    (trackRecordDepth views (scoreDay 100) oneIdea).depthMet = true := by
  intro views
  have counted : closedAtDesc (scorecardViews views) (scoreDay 100)
      (RecordedView.counted (scoreDay 100)) = [scoreDay 39] := by decide +kernel
  have terminal : closedAtDesc (scorecardViews views) (scoreDay 100)
      (fun view => view.state.terminal) = [scoreDay 39, scoreDay 20] := by
    decide +kernel
  refine ((window_keeps_enough_iff views (scoreDay 100) oneIdea
    (le_refl 1)).mpr fun last found => .inr fun reached same => ?_).2
      (counted ▸ le_refl 1)
  rw [counted] at found
  rw [terminal] at same
  exact (Option.some.inj (same.symm.trans found)).le

/-- An open position that was filled before the days of the threshold cuts the window
off before the one closed idea. -/
theorem open_fill_hides_closed_idea :
    let views := [restingView .cancelled 0 1, restingView .filled 39 101]
    oneIdea.minClosedIdeas ≤ (closedAtDesc (scorecardViews views) (scoreDay 100)
        (RecordedView.counted (scoreDay 100))).length ∧
      (trackRecordDepth views (scoreDay 100) oneIdea).closedIdeaCount = 0 ∧
      (trackRecordDepth views (scoreDay 100) oneIdea).depthMet = false := by
  decide +kernel

end Examples

end GptTrader
