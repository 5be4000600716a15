import Promptuary.Calendar.Window
import Promptuary.Schema.Form
import Promptuary.Statistics.Sample

/-!
Snapshots: what the executions of one template in one window of time amount to. The snapshots of a
template are kept by interval and start of the window.
-/

namespace Promptuary

open Schema Calendar

variable {α : Type} [Scalar α]

/-- What the executions by one provider amount to. -/
structure ProviderMetrics (α : Type) where
  count : Int
  responseTime : α
  errorRate : α
  cost : α

/-- What executions amount to. -/
structure Metrics (α : Type) where
  count : Int
  successRate : α
  responseTime : α
  spread : Sample.Spread α
  tokenUsage : α
  totalCost : α
  cost : α
  errorRate : α
  /-- The mean quality of the executions that have one. -/
  quality : Option α
  /-- How many executions have a quality. -/
  qualityCount : Int
  custom : Entries String α

/-- What the executions in a window amount to. -/
structure Snapshot (α : Type) where
  templateId : String
  interval : Interval
  /-- The start of the window. -/
  start : Moment
  metrics : Metrics α
  providers : Entries String (ProviderMetrics α)

/-! ### Empty metrics -/

/-- What no executions by a provider amount to. -/
def ProviderMetrics.none : ProviderMetrics α := ⟨0, Scalar.zero, Scalar.zero, Scalar.zero⟩

/-- What no executions amount to. -/
def Metrics.none : Metrics α :=
  let z : α := Scalar.zero
  { count := 0, successRate := z, responseTime := z, spread := ⟨z, z, z⟩, tokenUsage := z,
    totalCost := z, cost := z, errorRate := z, quality := .none, qualityCount := 0, custom := [] }

/-! ### Data -/

/-- An interval by its name. -/
def intervalShape : Shape Interval := word (Interval.all.map Interval.name) Interval.ofName?

/-- Provider metrics from the fields of an object. -/
def ProviderMetrics.shape : Shape (ProviderMetrics α) := record "ProviderMetrics" fun fields =>
  ProviderMetrics.mk
    <$> fieldOr "execution_count" integer 0 fields
    <*> fieldOr "avg_response_time" Scalar.shape Scalar.zero fields
    <*> fieldOr "error_rate" Scalar.shape Scalar.zero fields
    <*> fieldOr "avg_cost" Scalar.shape Scalar.zero fields

/-- Metrics from the fields of an object. -/
def Metrics.shape : Shape (Metrics α) := record "SnapshotMetrics" fun fields =>
  (fun count successRate responseTime p50 p95 p99 tokenUsage totalCost cost errorRate quality
      qualityCount custom =>
    { count, successRate, responseTime, spread := ⟨p50, p95, p99⟩, tokenUsage, totalCost, cost,
      errorRate, quality, qualityCount, custom })
    <$> fieldOr "execution_count" integer 0 fields
    <*> fieldOr "success_rate" Scalar.shape Scalar.zero fields
    <*> fieldOr "avg_response_time" Scalar.shape Scalar.zero fields
    <*> fieldOr "p50_response_time" Scalar.shape Scalar.zero fields
    <*> fieldOr "p95_response_time" Scalar.shape Scalar.zero fields
    <*> fieldOr "p99_response_time" Scalar.shape Scalar.zero fields
    <*> fieldOr "avg_token_usage" Scalar.shape Scalar.zero fields
    <*> fieldOr "total_cost" Scalar.shape Scalar.zero fields
    <*> fieldOr "avg_cost" Scalar.shape Scalar.zero fields
    <*> fieldOr "error_rate" Scalar.shape Scalar.zero fields
    <*> fieldOr "avg_quality_score" (nullable Scalar.shape) .none fields
    <*> fieldOr "quality_count" integer 0 fields
    <*> fieldOr "custom_metrics" (mapping Scalar.shape) [] fields

/-- A snapshot from the fields of an object. -/
def Snapshot.shape : Shape (Snapshot α) := record "PerformanceSnapshot" fun fields =>
  Snapshot.mk
    <$> field "template_id" text fields
    <*> field "interval" intervalShape fields
    <*> field "timestamp" moment fields
    <*> fieldOr "metrics" Metrics.shape .none fields
    <*> fieldOr "providers" (mapping ProviderMetrics.shape) [] fields

/-- Provider metrics as an object. -/
def ProviderMetrics.toDatum (p : ProviderMetrics α) : Datum :=
  .object
    [("execution_count", .int p.count),
     ("avg_response_time", Scalar.toDatum p.responseTime),
     ("error_rate", Scalar.toDatum p.errorRate),
     ("avg_cost", Scalar.toDatum p.cost)]

/-- The fields of metrics, in order. -/
def Metrics.fields (m : Metrics α) : Fields :=
  [("execution_count", .int m.count),
   ("success_rate", Scalar.toDatum m.successRate),
   ("avg_response_time", Scalar.toDatum m.responseTime),
   ("p50_response_time", Scalar.toDatum m.spread.p50),
   ("p95_response_time", Scalar.toDatum m.spread.p95),
   ("p99_response_time", Scalar.toDatum m.spread.p99),
   ("avg_token_usage", Scalar.toDatum m.tokenUsage),
   ("total_cost", Scalar.toDatum m.totalCost),
   ("avg_cost", Scalar.toDatum m.cost),
   ("error_rate", Scalar.toDatum m.errorRate),
   ("avg_quality_score", orNull Scalar.toDatum m.quality),
   ("quality_count", .int m.qualityCount),
   ("custom_metrics", .object (m.custom.map fun (name, x) => (name, Scalar.toDatum x)))]

/-- A snapshot as an object. -/
def Snapshot.toDatum (form : Form) (s : Snapshot α) : Datum :=
  .object
    [("template_id", .text s.templateId),
     ("interval", .text s.interval.name),
     ("timestamp", form.moment s.start),
     ("metrics", .object s.metrics.fields),
     ("providers", .object (s.providers.map fun (name, p) => (name, p.toDatum)))]

/-! ### Shelves -/

/-- What a snapshot is kept under. Starts that lie at one place of the time line are the same. -/
structure WindowKey where
  interval : Interval
  start : Moment

instance : BEq WindowKey where
  beq a b := a.interval = b.interval && a.start.same b.start

/-- The snapshots of one template, in the order of their creation. -/
abbrev Shelf (α : Type) := Entries WindowKey (Snapshot α)

/-- The snapshots of one interval. -/
def Shelf.ofInterval (shelf : Shelf α) (interval : Interval) : List (Snapshot α) :=
  (shelf.filter (·.1.interval = interval)).map (·.2)

end Promptuary
