import Promptuary.Analysis.Basic
import Promptuary.Analysis.Comparison
import Promptuary.Analysis.Recommendation
import Promptuary.Snapshot.Summary

/-!
Reports: what happened to a template in a period, what stands out, and how it compares with the
period of the same length before.
-/

namespace Promptuary

open Schema
open Calendar (Interval Moment)
open Operation

variable {α : Type} [Scalar α]

/-- A report. -/
structure Report (α : Type) where
  templateId : String
  start : Moment
  stop : Moment
  summary : Summary α
  trends : List (Trend α)
  anomalies : List (Anomaly α)
  recommendations : List Recommendation
  comparison : Option (PeriodComparison α)

/-- A report as an object. -/
def Report.toDatum (form : Form) (r : Report α) : Datum :=
  .object
    [("template_id", .text r.templateId),
     ("period", .object [("start", form.moment r.start), ("end", form.moment r.stop)]),
     ("summary", r.summary.toDatum form),
     ("trends", .list (r.trends.map (·.toDatum))),
     ("anomalies", .list (r.anomalies.map (·.toDatum form))),
     ("recommendations", .list (r.recommendations.map (·.toDatum))),
     ("previous_period", orNull PeriodComparison.toDatum r.comparison)]

namespace Analysis

/-- The snapshots of a template in the period of the same length before a period. -/
def snapshotsBefore (a : Analysis α) (id : String) (start stop : Moment) (interval : Interval) :
    Except Failure (List (Snapshot α)) := do
  let length ← (stop.since? start).mapError .calendar
  let all ← a.snapshots id (some interval)
  let isBefore (s : Snapshot α) : Except Calendar.CalendarError Bool := do
    (← start.shift? (-length)).isIn? start s.start
  (all.filterM isBefore).mapError .calendar

/-- The length of a report's period unless the caller says otherwise, in days. -/
def defaultDays : Int := 7

/-- The report on a template. -/
def report (id : String) (start stop : Option Moment := none) (interval : Interval := .minute) :
    Operation (Analysis α) (Report α) := do
  let stop ← match stop with
    | some t => pure t
    | none => now
  let start ← match start with
    | some t => pure t
    | none => attempt ((stop.daysBefore? defaultDays).mapError .calendar)
  let a ← own
  let snapshots ← attempt (a.snapshotsWithin id start stop interval)
  let summary ← attempt (Summary.ofSnapshots snapshots)
  let trends ← if a.policy.findTrends then attempt (Trend.analyze interval snapshots) else pure []
  let anomalies ← attempt (a.anomaliesWithin id (some start) (some stop))
  let recommendations ← attempt
    (Recommendation.all a.policy (← now) summary trends anomalies)
  let before ← attempt (a.snapshotsBefore id start stop interval)
  let comparison ←
    if before.isEmpty then pure none
    else attempt ((Summary.ofSnapshots before).map fun earlier =>
      some (PeriodComparison.of "Previous Period" summary earlier))
  return { templateId := id, start, stop, summary, trends, anomalies, recommendations, comparison }

end Analysis

end Promptuary
