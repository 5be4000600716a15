import Promptuary.Analysis.Basic
import Promptuary.Snapshot.Minute

/-!
Recording an execution: it goes to the recorder, is compared with the executions before it, and is
added to the snapshot of its minute.
-/

namespace Promptuary

open Calendar (Interval Moment)
open Operation

variable {α : Type} [Scalar α]

namespace Analysis

/-- An operation of the recorder as one of the analysis. -/
def onRecorder {β : Type} (op : Operation (Recorder α) β) : Operation (Analysis α) β :=
  within Analysis.recorder (fun r a => { a with recorder := r }) op

/-- A moment some days before the present one. -/
def daysAgo (days : Int) : Operation (Analysis α) Moment := do
  let time ← now
  attempt ((time.daysBefore? days).mapError .calendar)

/-! ### Anomalies -/

/-- Keeps anomalies with those found earlier, as far as they are recent. -/
def keepAnomalies (id : String) (found : List (Anomaly α)) : Operation (Analysis α) Unit := do
  let cutoff ← daysAgo (← own).policy.anomalyDays
  let all := ((← own).anomalies.get? id).getD [] ++ found
  let recent ← attempt ((all.filterM fun x => cutoff.lt? x.time).mapError .calendar)
  change fun a => { a with anomalies := a.anomalies.put id recent }

/-- The anomalies of an execution, compared with a baseline. -/
def detect (id : String) (e : Execution α) (baseline : List (Execution α)) :
    Operation (Analysis α) (List (Anomaly α)) := do
  let found ← attempt ((Anomaly.detect (← own).policy id e baseline).mapError .number)
  if !found.isEmpty then keepAnomalies id found
  return found

/-- The anomalies of an execution, compared with those recorded for a template. -/
def detectNew (id : String) (e : Execution α) : Operation (Analysis α) (List (Anomaly α)) := do
  detect id e ((← own).recorder.executions id)

/-- The anomalies of a recorded execution, compared with the others recorded for a template; a
negative position counts from the end. -/
def detectRecorded (id : String) (position : Int) : Operation (Analysis α) (List (Anomaly α)) := do
  let all := (← own).recorder.executions id
  let position := if position < 0 then position + all.length else position
  if position < 0 then throw .noSuchItem
  match all[position.toNat]? with
  | some e => detect id e (all.eraseIdx position.toNat)
  | none => throw .noSuchItem

/-! ### Minutes -/

/-- Changes the snapshot of a window, if there is one. -/
def changeSnapshot (id : String) (key : WindowKey) (f : Snapshot α → Snapshot α) :
    Operation (Analysis α) Unit :=
  change fun a =>
    let shelf := a.shelf id
    match shelf.get? key with
    | some s => a.putShelf id (shelf.put key (f s))
    | none => a

/-- Makes sure that there is a snapshot of a minute. -/
def openMinute (id : String) (start : Moment) : Operation (Analysis α) Unit :=
  change fun a =>
    let shelf := a.shelf id
    let key : WindowKey := ⟨.minute, start⟩
    if shelf.has key then a else a.putShelf id (shelf.put key (.empty id .minute start))

/-- Counts an execution in the snapshot of its minute. -/
def countExecution (key : WindowKey) (e : Execution α) : Operation (Analysis α) Unit := do
  let id := e.templateId
  changeSnapshot id key fun s => s.withMetrics (s.metrics.addOutcome e)
  match ((← own).shelf id).get? key with
  | none => return
  | some s =>
    let metrics ← attempt ((s.metrics.addAmounts e).mapError .number)
    changeSnapshot id key fun s => (s.withMetrics metrics).addProvider e

/-- Brings the percentiles of a snapshot of a minute up to date. -/
def updateSpread (id : String) (key : WindowKey) : Operation (Analysis α) Unit := do
  let stop ← attempt ((Interval.minute.endOf? key.start).mapError .calendar)
  let inWindow ← attempt
    ((((← own).recorder.executions id).filterM fun e =>
      key.start.isIn? stop e.executedAt).mapError .calendar)
  changeSnapshot id key (Snapshot.withSpread (inWindow.map (·.responseTime)))

/-- With how many of the latest executions custom metrics are computed. -/
def customWindow : Nat := 100

/-- The custom metrics that have a value, put into those of a snapshot. -/
def withCustom (values : Entries String α) (s : Snapshot α) : Snapshot α :=
  s.withMetrics
    { s.metrics with
      custom := values.foldl (fun custom (name, x) => custom.put name x) s.metrics.custom }

/-- Brings the custom metrics of a snapshot up to date. -/
def updateCustom (id : String) (key : WindowKey) : Operation (Analysis α) Unit := do
  let a ← own
  let recent := lastItems customWindow (a.recorder.executions id)
  if !recent.isEmpty then
    let values := a.custom.filterMap fun (name, metric) => (metric.value? recent).map (name, ·)
    changeSnapshot id key (withCustom values)

/-- Drops the snapshots of a template that are no longer kept. -/
def prune (id : String) : Operation (Analysis α) Unit := do
  let shelf := (← own).shelf id
  if !shelf.isEmpty then
    let cutoff ← daysAgo (← own).policy.snapshotDays
    let isExpired (entry : WindowKey × Snapshot α) := entry.2.start.le? cutoff
    let kept ← attempt
      ((shelf.filterM fun entry => (isExpired entry).map (!·)).mapError .calendar)
    if kept.length < shelf.length then
      change (putShelf id kept)
      announce (.snapshotsPruned id (shelf.length - kept.length))

/-- Adds an execution to the snapshot of its minute. -/
def updateMinute (e : Execution α) : Operation (Analysis α) Unit := do
  let id := e.templateId
  let key : WindowKey := ⟨.minute, Interval.minute.startOf e.executedAt⟩
  openMinute id key.start
  countExecution key e
  updateSpread id key
  updateCustom id key
  prune id

/-! ### Recording -/

/-- Records an execution, and gives its anomalies. It is compared with the executions recorded
before it. -/
def record (e : Execution α) : Operation (Analysis α) (List (Anomaly α)) := do
  let id := e.templateId
  let baseline := (← own).recorder.executions id
  onRecorder (Recorder.record e)
  if (← own).policy.realTime then
    let found ← detect id e baseline
    if !found.isEmpty then announce (.anomaliesDetected id (found.map (·.toDatum .stored)))
    updateMinute e
    return found
  else return []

/-- Adds a metric that the caller defines. -/
def registerMetric (name : String) (m : CustomMetric α) : Operation (Analysis α) Unit := do
  change fun a => { a with custom := a.custom.put name m }
  announce (.metricRegistered name m.unit)

end Analysis

end Promptuary
