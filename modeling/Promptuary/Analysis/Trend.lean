import Promptuary.Calendar.Order
import Promptuary.Snapshot.Basic
import Promptuary.Statistics.Regression

/-!
Trends: the line along which a metric moves from snapshot to snapshot, with time measured in windows
of the interval.
-/

namespace Promptuary

open Schema Scalar
open Calendar (Interval Moment)

variable {α : Type} [Scalar α]

/-- Where a metric goes, by the slope of its line alone. -/
inductive Direction where
  | improving | declining | stable
deriving DecidableEq, Repr

namespace Direction

/-- All directions. -/
def all : List Direction := [.improving, .declining, .stable]

/-- The name of a direction. -/
def name : Direction → String
  | .improving => "improving"
  | .declining => "declining"
  | .stable => "stable"

/-- The direction with a name. -/
def ofName? (s : String) : Option Direction := all.find? (·.name = s)

@[simp] theorem ofName?_name (d : Direction) : ofName? d.name = some d := by
  cases d <;> rfl

/-- The direction of a slope. -/
def ofSlope (slope : α) : Direction :=
  let threshold : α := decimal 1 2
  if lt threshold slope then .improving else if lt slope (-threshold) then .declining else .stable

end Direction

/-- A trend. -/
structure Trend (α : Type) where
  /-- The name of the metric. -/
  metric : String
  direction : Direction
  slope : α
  /-- Whether the metric gets better; a lower time or cost is better. -/
  isImprovement : Bool
  changePercent : α
  /-- The share of the variation that the line explains. -/
  confidence : α
  forecast : Option (Forecast α)

/-- A forecast from the fields of an object. -/
def Forecast.shape : Shape (Forecast α) := record "Forecast" fun fields =>
  (fun value (bounds : α × α) => ⟨value, bounds.1, bounds.2⟩)
    <$> field "next_period_value" Scalar.shape fields
    <*> field "confidence_interval" (pair Scalar.shape) fields

/-- A forecast as an object. -/
def Forecast.toDatum (f : Forecast α) : Datum :=
  .object
    [("next_period_value", Scalar.toDatum f.value),
     ("confidence_interval", .list [Scalar.toDatum f.low, Scalar.toDatum f.high])]

namespace Trend

/-- A trend from the fields of an object. -/
def shape : Shape (Trend α) := record "PerformanceTrend" fun fields =>
  Trend.mk
    <$> field "metric" text fields
    <*> field "direction" (word (Direction.all.map Direction.name) Direction.ofName?) fields
    <*> field "slope" Scalar.shape fields
    <*> fieldOr "is_improvement" truth false fields
    <*> field "change_percent" Scalar.shape fields
    <*> field "confidence" Scalar.shape fields
    <*> fieldOr "forecast" (nullable Forecast.shape) none fields

/-- A trend as an object. -/
def toDatum (t : Trend α) : Datum :=
  .object
    [("metric", .text t.metric),
     ("direction", .text t.direction.name),
     ("slope", Scalar.toDatum t.slope),
     ("is_improvement", .bool t.isImprovement),
     ("change_percent", Scalar.toDatum t.changePercent),
     ("confidence", Scalar.toDatum t.confidence),
     ("forecast", orNull Forecast.toDatum t.forecast)]

/-- A metric that is followed. -/
structure Followed (α : Type) where
  name : String
  lowerIsBetter : Bool
  value : Metrics α → Option α

/-- The metrics that are followed. -/
def followed : List (Followed α) :=
  [⟨"success_rate", false, fun m => some m.successRate⟩,
   ⟨"avg_response_time", true, fun m => some m.responseTime⟩,
   ⟨"avg_cost", true, fun m => some m.cost⟩,
   ⟨"avg_quality_score", false, fun m => m.quality⟩]

/-- How many windows after another moment a moment lies. -/
def windowsSince (interval : Interval) (origin t : Moment) : Except Failure α := do
  let micros ← (t.since? origin).mapError .calendar
  let seconds : α ← (Scalar.quotient micros Calendar.second).mapError .number
  return seconds / ofNat interval.nominalSeconds

/-- The trend of a metric along points, if a line can be drawn through them. -/
def ofPoints (f : Followed α) (xs ys : List α) : Option (Trend α) :=
  (Regression.ofPoints xs ys).map fun line =>
    { metric := f.name
      direction := .ofSlope line.slope
      slope := line.slope
      isImprovement := if f.lowerIsBetter then lt line.slope zero else lt zero line.slope
      changePercent := line.changePercent
      confidence := line.fit
      forecast := line.forecast }

/-- The trends in snapshots, in the order of time. Fewer than three points make no trend. -/
def analyze (interval : Interval) (snapshots : List (Snapshot α)) :
    Except Failure (List (Trend α)) := do
  if snapshots.length < 3 then return []
  let ordered ← (Moment.sortOn? Snapshot.start snapshots).mapError .calendar
  match ordered with
  | [] => return []
  | first :: _ =>
    let placed : List (α × Metrics α) ← ordered.mapM fun s =>
      return (← windowsSince interval first.start s.start, s.metrics)
    return followed.filterMap fun f =>
      let points := placed.filterMap fun (x, m) => (f.value m).map (x, ·)
      ofPoints f (points.map (·.1)) (points.map (·.2))

end Trend

end Promptuary
