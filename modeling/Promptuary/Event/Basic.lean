import Promptuary.Json.Writer
import Promptuary.Schema.Shape
import Promptuary.Schema.Form

/-!
Events: what happened, to which template, when, and with which particulars.
-/

namespace Promptuary

open Schema

/-- The types of event. -/
inductive EventType where
  | templateCreated | templateUpdated | templateDeleted | templateCompiled
  | versionCreated | versionsPruned
  | executionRecorded | anomaliesDetected
  | snapshotAggregated | snapshotsPruned
  | metricRegistered | error
deriving DecidableEq, Repr

namespace EventType

/-- All types, in the order in which messages name them. -/
def all : List EventType :=
  [.templateCreated, .templateUpdated, .templateDeleted, .templateCompiled, .versionCreated,
   .versionsPruned, .executionRecorded, .anomaliesDetected, .snapshotAggregated, .snapshotsPruned,
   .metricRegistered, .error]

/-- The name of a type. -/
def name : EventType → String
  | .templateCreated => "template.created"
  | .templateUpdated => "template.updated"
  | .templateDeleted => "template.deleted"
  | .templateCompiled => "template.compiled"
  | .versionCreated => "version.created"
  | .versionsPruned => "versions.pruned"
  | .executionRecorded => "execution.recorded"
  | .anomaliesDetected => "anomalies.detected"
  | .snapshotAggregated => "snapshot.aggregated"
  | .snapshotsPruned => "snapshots.pruned"
  | .metricRegistered => "metric.registered"
  | .error => "error"

/-- The type with a name. -/
def ofName? (s : String) : Option EventType := all.find? (·.name = s)

@[simp] theorem ofName?_name (t : EventType) : ofName? t.name = some t := by
  cases t <;> rfl

end EventType

/-- Something that happened. -/
structure Event where
  type : EventType
  templateId : Option String
  timestamp : Calendar.Moment
  data : Fields

namespace Event

/-- An event from the fields of an object. A time that is absent is the one given. -/
def shape (now : Calendar.Moment) : Shape Event := record "Event" fun fields =>
  Event.mk
    <$> field "event_type" (word (EventType.all.map EventType.name) EventType.ofName?) fields
    <*> fieldOr "template_id" (nullable text) none fields
    <*> fieldOr "timestamp" moment now fields
    <*> fieldOr "data" (mapping anything) [] fields

/-- An event as an object. -/
def toDatum (form : Form) (e : Event) : Datum :=
  .object
    [("event_type", .text e.type.name),
     ("template_id", Datum.ofText? e.templateId),
     ("timestamp", form.moment e.timestamp),
     ("data", form.freeFields e.data)]

/-- Whether an event can be sent: its particulars are not nested too deeply. -/
def isSendable (e : Event) : Bool := e.data.all fun p => isShallow p.2

/-- The text that is sent for an event. -/
def body (e : Event) : String :=
  match Json.print .body (e.toDatum .stored) with
  | .ok s => s
  | .error _ => ""

end Event

end Promptuary
