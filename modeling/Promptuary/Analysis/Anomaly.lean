import Promptuary.Analysis.Policy
import Promptuary.Execution.Basic
import Promptuary.Statistics.Sample

/-!
Anomalies: values of an execution that lie farther from the mean of the executions before it than
the policy allows, measured in standard deviations.
-/

namespace Promptuary

open Schema Scalar

variable {α : Type} [Scalar α]

/-- What of an execution is compared. -/
inductive Measure where
  | responseTime | tokenUsage | cost | quality
deriving DecidableEq, Repr

/-- The name of a measure. -/
def Measure.name : Measure → String
  | .responseTime => "response_time"
  | .tokenUsage => "token_usage"
  | .cost => "cost"
  | .quality => "quality_score"

/-- How far off an anomaly is. -/
inductive Severity where
  | low | medium | high
deriving DecidableEq, Repr

namespace Severity

/-- All severities. -/
def all : List Severity := [.low, .medium, .high]

/-- The name of a severity. -/
def name : Severity → String
  | .low => "low"
  | .medium => "medium"
  | .high => "high"

/-- The severity with a name. -/
def ofName? (s : String) : Option Severity := all.find? (·.name = s)

@[simp] theorem ofName?_name (s : Severity) : ofName? s.name = some s := by
  cases s <;> rfl

/-- The severity of a distance in standard deviations. -/
def ofDistance (distance : α) : Severity :=
  if lt (Scalar.ofNat 5) distance then .high
  else if lt (Scalar.ofNat 4) distance then .medium
  else .low

end Severity

/-- An anomaly. -/
structure Anomaly (α : Type) where
  time : Calendar.Moment
  templateId : String
  /-- The name of what was measured. -/
  measure : String
  expected : α
  actual : α
  /-- In standard deviations. -/
  distance : α
  severity : Severity
  causes : List String

namespace Anomaly

/-- An anomaly from the fields of an object. -/
def shape : Shape (Anomaly α) := record "PerformanceAnomaly" fun fields =>
  Anomaly.mk
    <$> field "timestamp" moment fields
    <*> field "template_id" text fields
    <*> field "metric" text fields
    <*> field "expected_value" Scalar.shape fields
    <*> field "actual_value" Scalar.shape fields
    <*> field "deviation_std_dev" Scalar.shape fields
    <*> field "severity" (word (Severity.all.map Severity.name) Severity.ofName?) fields
    <*> fieldOr "possible_causes" (list text) [] fields

/-- An anomaly as an object. -/
def toDatum (form : Form) (a : Anomaly α) : Datum :=
  .object
    [("timestamp", form.moment a.time),
     ("template_id", .text a.templateId),
     ("metric", .text a.measure),
     ("expected_value", Scalar.toDatum a.expected),
     ("actual_value", Scalar.toDatum a.actual),
     ("deviation_std_dev", Scalar.toDatum a.distance),
     ("severity", .text a.severity.name),
     ("possible_causes", texts a.causes)]

/-- What can make a measure too large, or the quality too small. -/
def causesOf (measure : Measure) (difference : α) : List String :=
  let above := lt zero difference
  match measure with
  | .responseTime =>
    if above then ["Provider API slowdown", "Increased prompt complexity", "Network latency"]
    else []
  | .tokenUsage =>
    if above then ["Longer input prompts", "More verbose responses", "Changed model behavior"]
    else []
  | .cost =>
    if above then
      ["Increased token usage", "Using more expensive model", "Provider pricing changes"]
    else []
  | .quality =>
    if lt difference zero then
      ["Prompt degradation", "Model performance issues", "Changed evaluation criteria"]
    else []

/-- A measured value with the values that it is compared with. -/
structure Comparison (α : Type) where
  measure : Measure
  value : α
  history : List α

/-- The items of a list from which a comparison is made: the last ones, if there is a positive
number of them. With zero all items are taken, and a negative number leaves out that many at the
start. -/
def windowOf {β : Type} (count : Int) (xs : List β) : List β :=
  if 0 < count then xs.drop (xs.length - count.toNat) else xs.drop count.natAbs

/-- What is compared for an execution with others before it. The quality is compared only if it has
one. -/
def comparisons (e : Execution α) (window : List (Execution α)) :
    Except NumberError (List (Comparison α)) := do
  let tokens : α ← Scalar.ofInt e.tokens.total
  let allTokens : List α ← window.mapM fun other => Scalar.ofInt other.tokens.total
  let always : List (Comparison α) :=
    [⟨.responseTime, e.responseTime, window.map (·.responseTime)⟩,
     ⟨.tokenUsage, tokens, allTokens⟩,
     ⟨.cost, e.cost, window.map (·.cost)⟩]
  let quality := match e.quality with
    | some score => [⟨.quality, score, window.filterMap (·.quality)⟩]
    | none => []
  return always ++ quality

/-- The anomaly that a comparison shows, if it shows one. Values that are all equal show none. -/
def ofComparison (threshold : α) (templateId : String) (time : Calendar.Moment)
    (c : Comparison α) : Option (Anomaly α) :=
  let stats := Sample.describe c.history
  if same stats.deviation zero then none
  else
    let difference := c.value - stats.mean
    let distance := abs difference / stats.deviation
    if le distance threshold then none
    else
      some
        { time, templateId, distance
          measure := c.measure.name
          expected := stats.mean
          actual := c.value
          severity := .ofDistance distance
          causes := causesOf c.measure difference }

/-- The anomalies of an execution, compared with those before it. -/
def detect (policy : Policy α) (templateId : String) (e : Execution α)
    (baseline : List (Execution α)) : Except NumberError (List (Anomaly α)) := do
  if !policy.detectAnomalies || (baseline.length : Int) < policy.leastSamples then return []
  let compared ← comparisons e (windowOf policy.window baseline)
  return compared.filterMap (ofComparison policy.threshold templateId e.executedAt)

end Anomaly

end Promptuary
