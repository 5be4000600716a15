import Promptuary.Analysis.Anomaly
import Promptuary.Calendar.Order
import Promptuary.Execution.Recorder
import Promptuary.Snapshot.Basic

/-!
The state of an analysis: the recorder of executions, the snapshots and anomalies of each template,
and the metrics that callers define.
-/

namespace Promptuary

open Calendar (Interval Moment)

variable {α : Type} [Scalar α]

/-- A metric that a caller defines over the latest executions. Its result counts if it is a number,
or a text that holds one. -/
structure CustomMetric (α : Type) where
  unit : String
  calculate : List (Execution α) → Option Datum

/-- The value of a custom metric, if it has one. -/
def CustomMetric.value? (m : CustomMetric α) (executions : List (Execution α)) : Option α :=
  match m.calculate executions with
  | some d => (Scalar.shape d).toExcept.toOption
  | none => none

/-- The state of an analysis. -/
structure Analysis (α : Type) where
  policy : Policy α
  recorder : Recorder α
  /-- The snapshots of each template. -/
  shelves : Entries String (Shelf α) := []
  /-- The anomalies of each template, in the order of detection. -/
  anomalies : Entries String (List (Anomaly α)) := []
  custom : Entries String (CustomMetric α) := []

namespace Analysis

/-- The snapshots of a template by their windows. -/
def shelf (a : Analysis α) (id : String) : Shelf α := (a.shelves.get? id).getD []

/-- Puts the snapshots of a template into the state. -/
def putShelf (id : String) (shelf : Shelf α) (a : Analysis α) : Analysis α :=
  { a with shelves := a.shelves.put id shelf }

/-- The state without snapshots, anomalies and custom metrics; the recorder keeps its executions. -/
def cleared (a : Analysis α) : Analysis α := { a with shelves := [], anomalies := [], custom := [] }

/-! ### Views -/

/-- The snapshots of a template in the order of time, of one interval or of all. -/
def snapshots (a : Analysis α) (id : String) (interval : Option Interval := none) :
    Except Failure (List (Snapshot α)) :=
  let chosen := match interval with
    | some interval => (a.shelf id).ofInterval interval
    | none => (a.shelf id).map (·.2)
  (Moment.sortOn? Snapshot.start chosen).mapError .calendar

/-- The snapshots of a template whose windows start in a span of time. -/
def snapshotsWithin (a : Analysis α) (id : String) (start stop : Moment)
    (interval : Interval := .minute) : Except Failure (List (Snapshot α)) := do
  let all ← a.snapshots id (some interval)
  (all.filterM fun s => start.isWithin? stop s.start).mapError .calendar

/-- Whether a moment lies within limits that may be absent. -/
def isBetween (start stop : Option Moment) (t : Moment) : Except Calendar.CalendarError Bool := do
  let after ← match start with
    | some start => start.le? t
    | none => .ok true
  if !after then return false
  match stop with
  | some stop => t.le? stop
  | none => return true

/-- The anomalies of a template within limits of time. -/
def anomaliesWithin (a : Analysis α) (id : String) (start stop : Option Moment) :
    Except Failure (List (Anomaly α)) :=
  (((a.anomalies.get? id).getD []).filterM fun x => isBetween start stop x.time).mapError .calendar

/-! ### Histories of metrics -/

/-- The metrics of a snapshot by name, as far as they are single values. -/
def namedMetrics (m : Metrics α) : List (String × Option α) :=
  [("execution_count", Scalar.ofInt? m.count),
   ("success_rate", some m.successRate),
   ("avg_response_time", some m.responseTime),
   ("p50_response_time", some m.spread.p50),
   ("p95_response_time", some m.spread.p95),
   ("p99_response_time", some m.spread.p99),
   ("avg_token_usage", some m.tokenUsage),
   ("total_cost", some m.totalCost),
   ("avg_cost", some m.cost),
   ("error_rate", some m.errorRate),
   ("avg_quality_score", m.quality),
   ("quality_count", Scalar.ofInt? m.qualityCount),
   ("custom_metrics", none)]

/-- The value of a metric: one of every snapshot or a custom one, and zero for any other name. -/
def metricValue (m : Metrics α) (name : String) : α :=
  match Entries.get? (namedMetrics m) name with
  | some value => value.getD Scalar.zero
  | none => (m.custom.get? name).getD Scalar.zero

/-- The latest values of a metric with their times, the oldest first. -/
def history (a : Analysis α) (id metric : String) (interval : Interval) (periods : Int) :
    Except Failure (List (Moment × α)) := do
  if periods ≤ 0 then return []
  let all ← a.snapshots id (some interval)
  return (lastItems periods.toNat all).map fun s => (s.start, metricValue s.metrics metric)

end Analysis

end Promptuary
