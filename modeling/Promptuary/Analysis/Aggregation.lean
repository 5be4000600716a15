import Promptuary.Analysis.Recording
import Promptuary.Snapshot.Rollup

/-!
Aggregation: the snapshots of completed windows are rolled up from those of a finer interval. A
window that has a snapshot is never touched again, and so is one that is older than snapshots are
kept.
-/

namespace Promptuary

open Calendar (CalendarError Interval Moment)
open Operation

variable {α : Type} [Scalar α]

namespace Analysis

/-- The windows of an interval, each once and in order, that snapshots of the source interval before
`current` fall into, as far as they start after `cutoff`. -/
def completedWindows (interval source : Interval) (current cutoff : Moment) (shelf : Shelf α) :
    Except CalendarError (List Moment) := do
  let candidates := (shelf.keys.filter (·.interval = source)).map (·.start)
  let completed ← candidates.filterM fun t => t.lt? current
  let windows := (completed.map fun t => (⟨interval, interval.startOf t⟩ : WindowKey)).eraseDups
  let ordered ← Moment.sortOn? id (windows.map (·.start))
  ordered.filterM fun start => cutoff.lt? start

/-- The snapshots of an interval whose windows start in a span of time. -/
def sourcesIn (source : Interval) (start stop : Moment) (shelf : Shelf α) :
    Except CalendarError (List (Snapshot α)) := do
  let candidates := shelf.filter (·.1.interval = source)
  let chosen ← candidates.filterM fun entry => start.isIn? stop entry.1.start
  return chosen.map (·.2)

/-- Rolls one window of a template up, unless it has a snapshot or nothing to roll up. -/
def aggregateWindow (id : String) (interval source : Interval) (start : Moment) :
    Operation (Analysis α) (Option (Snapshot α)) := do
  let a ← own
  let shelf := a.shelf id
  let key : WindowKey := ⟨interval, start⟩
  if shelf.has key then return none
  let stop ← attempt ((interval.endOf? start).mapError .calendar)
  let sources ← attempt ((sourcesIn source start stop shelf).mapError .calendar)
  if sources.isEmpty then return none
  let known ← attempt
    (((a.recorder.executions id).filterM fun e => start.isIn? stop e.executedAt).mapError .calendar)
  let snapshot ← attempt
    ((Snapshot.rollUp id interval start sources (known.map (·.responseTime))).mapError .number)
  change (putShelf id (shelf.put key snapshot))
  announce (.snapshotAggregated id interval start sources.length)
  return some snapshot

/-- Rolls the windows of a template up. -/
def aggregateTemplate (interval source : Interval) (current cutoff : Moment)
    (windowStart : Option Moment) (id : String) : Operation (Analysis α) (List (Snapshot α)) := do
  let shelf := (← own).shelf id
  let windows ← match windowStart with
    | some t => pure [interval.startOf t]
    | none => attempt ((completedWindows interval source current cutoff shelf).mapError .calendar)
  windows.filterMapM (aggregateWindow id interval source)

/-- Rolls the completed windows of all templates up, or the window that holds a given moment, and
gives the new snapshots. -/
def aggregate (interval : Interval) (time : Option Moment := none)
    (windowStart : Option Moment := none) : Operation (Analysis α) (List (Snapshot α)) := do
  match interval.source? with
  | none => throw .minuteRollup
  | some source =>
    let time ← match time with
      | some t => pure t
      | none => now
    let cutoff ← attempt
      ((time.daysBefore? (← own).policy.snapshotDays).mapError .calendar)
    let created ← (← own).shelves.keys.mapM
      (aggregateTemplate interval source (interval.startOf time) cutoff windowStart)
    return created.flatten

/-! ### Passes -/

/-- The names of the passes that can be scheduled, the finest interval first. -/
def passes : List (String × Interval) :=
  [("hourly", .hour), ("daily", .day), ("weekly", .week), ("monthly", .month)]

/-- The passes with some names, the finest interval first. -/
def passesOf (names : List String) : List (String × Interval) :=
  passes.filter fun pass => names.contains pass.1

/-- Makes the passes with some names once, the finest interval first. -/
def runOnce (names : List String) : Operation (Analysis α) (List (Snapshot α)) := do
  let created ← (passesOf names).mapM fun pass => aggregate pass.2
  return created.flatten

end Analysis

end Promptuary
