import Promptuary.Event.Basic
import Promptuary.Calendar.Window

/-!
What the parts of an engine announce, and the events that carry it.
-/

namespace Promptuary

open Calendar (Interval Moment)

/-- An announcement. -/
inductive Notice where
  | templateCreated (id name label : String)
  | templateUpdated (id previous next : String)
  | templateDeleted (id : String)
  | templateCompiled (id label : String) (length : Nat)
  | versionCreated (id label changelog : String)
  | versionsPruned (id : String) (labels : List String)
  | executionRecorded (id label : String) (success : Bool) (responseTime : Datum)
  | anomaliesDetected (id : String) (anomalies : List Datum)
  | snapshotAggregated (id : String) (interval : Interval) (start : Moment) (sources : Nat)
  | snapshotsPruned (id : String) (count : Nat)
  | metricRegistered (name unit : String)
  /-- An operation on a template failed. -/
  | failed (id operation error : String) (particulars : Fields)

namespace Notice

/-- The type of the event. -/
def type : Notice → EventType
  | .templateCreated .. => .templateCreated
  | .templateUpdated .. => .templateUpdated
  | .templateDeleted .. => .templateDeleted
  | .templateCompiled .. => .templateCompiled
  | .versionCreated .. => .versionCreated
  | .versionsPruned .. => .versionsPruned
  | .executionRecorded .. => .executionRecorded
  | .anomaliesDetected .. => .anomaliesDetected
  | .snapshotAggregated .. => .snapshotAggregated
  | .snapshotsPruned .. => .snapshotsPruned
  | .metricRegistered .. => .metricRegistered
  | .failed .. => .error

/-- The template that an announcement concerns. -/
def templateId? : Notice → Option String
  | .templateCreated id .. => some id
  | .templateUpdated id .. => some id
  | .templateDeleted id => some id
  | .templateCompiled id .. => some id
  | .versionCreated id .. => some id
  | .versionsPruned id .. => some id
  | .executionRecorded id .. => some id
  | .anomaliesDetected id .. => some id
  | .snapshotAggregated id .. => some id
  | .snapshotsPruned id .. => some id
  | .metricRegistered .. => none
  | .failed id .. => some id

/-- The particulars of an announcement. -/
def data : Notice → Fields
  | .templateCreated _ name label => [("name", .text name), ("version", .text label)]
  | .templateUpdated _ previous next =>
    [("previous_version", .text previous), ("new_version", .text next)]
  | .templateDeleted _ => []
  | .templateCompiled _ label length =>
    [("version", .text label), ("compiled_length", .int length)]
  | .versionCreated _ label changelog =>
    [("version", .text label), ("changelog", .text changelog)]
  | .versionsPruned _ labels => [("removed_versions", Schema.texts labels)]
  | .executionRecorded _ label success responseTime =>
    [("version", .text label), ("success", .bool success), ("response_time", responseTime)]
  | .anomaliesDetected _ anomalies => [("anomalies", .list anomalies)]
  | .snapshotAggregated _ interval start sources =>
    [("interval", .text interval.name), ("timestamp", .text start.isoDigits),
     ("source_count", .int sources)]
  | .snapshotsPruned _ count => [("pruned_count", .int count)]
  | .metricRegistered name unit => [("metric_name", .text name), ("unit", .text unit)]
  | .failed _ operation error particulars =>
    [("operation", .text operation), ("error", .text error)] ++ particulars

/-- The event that carries an announcement. -/
def event (n : Notice) (timestamp : Moment) : Event :=
  ⟨n.type, n.templateId?, timestamp, n.data⟩

end Notice

end Promptuary
