import Mathlib.Order.Bounds.Basic
import GptTrader.Backtesting.MarkedPositions
import GptTrader.Library.LastValues

/-!
# The equity curve and its drawdown

`update_equity_curve` of `backtesting/simulation/broker.py`.  The drawdown in dollars
and the drawdown in percent are kept under one comparison, of the dollars, so the
percent that is reported is that of the deepest point in dollars.
-/

namespace GptTrader

/-- The equity curve of a broker, with its peak and its deepest drawdown. -/
structure EquityCurve where
  points : List (ℤ × ℚ)
  peakEquity : ℚ
  maxDrawdown : ℚ
  maxDrawdownUsd : ℚ

namespace EquityCurve

def fresh (initialEquity : ℚ) : EquityCurve :=
  { points := []
    peakEquity := initialEquity
    maxDrawdown := 0
    maxDrawdownUsd := 0 }

/-- `update_equity_curve`, of the equity at a time. -/
def record (curve : EquityCurve) (timestamp : ℤ) (equity : ℚ) : EquityCurve :=
  let peak := if curve.peakEquity < equity then equity else curve.peakEquity
  let drawdown := peak - equity
  let drawdownPct := if 0 < peak then drawdown / peak * 100 else 0
  let recorded := { curve with
    points := curve.points ++ [(timestamp, equity)]
    peakEquity := peak }
  if curve.maxDrawdownUsd < drawdown then
    { recorded with maxDrawdownUsd := drawdown, maxDrawdown := drawdownPct }
  else recorded

/-- `update_equity_curve`; a broker without a simulation time takes the clock. -/
def update (curve : EquityCurve) (broker : SimulatedBroker) (now : ℤ) :
    EquityCurve :=
  curve.record (broker.simulationTime.getD now) broker.equity

/-- The curve after the snapshots were recorded. -/
def recorded (initialEquity : ℚ) (snapshots : List (SimulatedBroker × ℤ)) :
    EquityCurve :=
  snapshots.foldl (fun curve snapshot => curve.update snapshot.1 snapshot.2)
    (fresh initialEquity)

end EquityCurve

/-! ## Drawdown of a curve -/

/-- An equity and the highest equity until then. -/
structure CurvePoint where
  peak : ℚ
  equity : ℚ
  deriving DecidableEq

namespace CurvePoint

/-- The drawdown in dollars. -/
def usd (point : CurvePoint) : ℚ :=
  point.peak - point.equity

/-- The drawdown in percent of the peak. -/
def percent (point : CurvePoint) : ℚ :=
  if 0 < point.peak then point.usd / point.peak * 100 else 0

end CurvePoint

def laterPoints (peak : ℚ) : List ℚ → List CurvePoint
  | [] => []
  | equity :: rest =>
      { peak := max peak equity, equity := equity } ::
        laterPoints (max peak equity) rest

def curvePoints (initialEquity : ℚ) (equities : List ℚ) : List CurvePoint :=
  { peak := initialEquity, equity := initialEquity } ::
    laterPoints initialEquity equities

def DeepestInBoth (points : List CurvePoint) : Prop :=
  ∃ deepest, FirstMax CurvePoint.usd points deepest ∧
    ∀ point ∈ points, point.percent ≤ deepest.percent

theorem laterPoints_append (peak : ℚ) (equities : List ℚ) (last : ℚ) :
    laterPoints peak (equities ++ [last]) =
      laterPoints peak equities ++
        [{ peak := max (equities.foldl max peak) last, equity := last }] := by
  induction equities generalizing peak with
  | nil => rfl
  | cons equity rest induction =>
      rw [List.cons_append, laterPoints, induction]
      rfl

theorem curvePoints_append (initialEquity : ℚ) (equities : List ℚ) (last : ℚ) :
    curvePoints initialEquity (equities ++ [last]) =
      curvePoints initialEquity equities ++
        [{ peak := max (equities.foldl max initialEquity) last
           equity := last }] := by
  unfold curvePoints
  rw [laterPoints_append, List.cons_append]

theorem peak_le_of_mem_laterPoints {peak : ℚ} {equities : List ℚ}
    {point : CurvePoint} (member : point ∈ laterPoints peak equities) :
    peak ≤ point.peak := by
  induction equities generalizing peak with
  | nil => cases member
  | cons equity rest induction =>
      rcases List.mem_cons.mp member with rfl | later
      · exact le_max_left peak equity
      · exact (le_max_left peak equity).trans (induction later)

theorem initial_le_peak {initialEquity : ℚ} {equities : List ℚ}
    {point : CurvePoint} (member : point ∈ curvePoints initialEquity equities) :
    initialEquity ≤ point.peak := by
  rcases List.mem_cons.mp member with rfl | later
  · exact le_refl _
  · exact peak_le_of_mem_laterPoints later

/-! ## What the curve keeps -/

namespace EquityCurve

/-- The curve knows the peak, and the drawdowns of the deepest point in dollars. -/
structure Follows (initialEquity : ℚ) (equities : List ℚ) (curve : EquityCurve) :
    Prop where
  peak : curve.peakEquity = equities.foldl max initialEquity
  deepest : ∃ point,
    FirstMax CurvePoint.usd (curvePoints initialEquity equities) point ∧
      curve.maxDrawdownUsd = point.usd ∧ curve.maxDrawdown = point.percent

theorem fresh_follows (initialEquity : ℚ) :
    Follows initialEquity [] (fresh initialEquity) where
  peak := rfl
  deepest := by
    refine ⟨⟨initialEquity, initialEquity⟩, FirstMax.single _, ?_, ?_⟩
    · exact (sub_self initialEquity).symm
    · unfold CurvePoint.percent CurvePoint.usd
      rw [sub_self, zero_div, zero_mul, ite_self]
      rfl

theorem Follows.record {initialEquity : ℚ} {equities : List ℚ}
    {curve : EquityCurve} (follows : Follows initialEquity equities curve)
    (timestamp : ℤ) (equity : ℚ) :
    Follows initialEquity (equities ++ [equity])
      (curve.record timestamp equity) := by
  obtain ⟨peak, deepest, first, usd, percent⟩ := follows
  have raised : (if curve.peakEquity < equity then equity
      else curve.peakEquity) = max (equities.foldl max initialEquity) equity := by
    rw [peak]
    split
    · next higher => exact (max_eq_right higher.le).symm
    · next lower => exact (max_eq_left (not_lt.mp lower)).symm
  have summed : (equities ++ [equity]).foldl max initialEquity =
      max (equities.foldl max initialEquity) equity := List.foldl_append
  unfold EquityCurve.record
  dsimp only
  rw [raised]
  split
  · next deeper =>
      refine ⟨summed.symm,
        ⟨max (equities.foldl max initialEquity) equity, equity⟩, ?_, rfl, rfl⟩
      rw [curvePoints_append]
      exact first.replace (usd.symm.trans_lt deeper)
  · next shallower =>
      refine ⟨summed.symm, deepest, ?_, usd, percent⟩
      rw [curvePoints_append]
      exact first.keep ((not_lt.mp shallower).trans_eq usd)

theorem recorded_follows (initialEquity : ℚ)
    (snapshots : List (SimulatedBroker × ℤ)) :
    Follows initialEquity (snapshots.map fun snapshot => snapshot.1.equity)
      (recorded initialEquity snapshots) := by
  induction snapshots using List.reverseRecOn with
  | nil => exact fresh_follows initialEquity
  | append_singleton snapshots last induction =>
      unfold recorded
      rw [List.foldl_append, List.map_append]
      exact induction.record _ _

end EquityCurve

end GptTrader
