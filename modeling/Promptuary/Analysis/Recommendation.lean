import Promptuary.Analysis.Anomaly
import Promptuary.Analysis.Trend

/-!
Recommendations: remarks on what stands out in a summary, in trends and among recent anomalies.
-/

namespace Promptuary

open Schema Scalar
open Calendar (Moment)

variable {α : Type} [Scalar α]

/-- The kinds of recommendation. -/
inductive Advice where
  | optimization | warning
deriving DecidableEq, Repr

/-- The name of a kind. -/
def Advice.name : Advice → String
  | .optimization => "optimization"
  | .warning => "warning"

/-- A recommendation. -/
structure Recommendation where
  advice : Advice
  isUrgent : Bool
  title : String
  description : String
  impact : String
  action : String
  metrics : List String

namespace Recommendation

/-- A recommendation as an object. -/
def toDatum (r : Recommendation) : Datum :=
  .object
    [("type", .text r.advice.name),
     ("priority", .text (if r.isUrgent then "high" else "medium")),
     ("title", .text r.title),
     ("description", .text r.description),
     ("impact", .text r.impact),
     ("suggested_action", .text r.action),
     ("related_metrics", texts r.metrics)]

/-- A scalar rounded to an integer, or a failure. -/
def rounded (x : α) : Except Failure Int := (Scalar.round x).mapError .number

/-- The remark on a long response time. -/
def onTime (p : Policy α) (s : Summary α) : Except Failure (List Recommendation) := do
  if 0 < s.total && lt p.slowFrom s.responseTime then
    return [{
      advice := .optimization, isUrgent := true
      title := "High Response Time Detected"
      description := s!"Average response time is {← rounded s.responseTime}ms, " ++
        "which may impact user experience."
      impact :=
        "Reducing response time by 50% could improve user satisfaction and reduce abandonment."
      action := "Consider using a faster model, optimizing prompts, or implementing caching."
      metrics := ["avg_response_time", "success_rate"] }]
  return []

/-- The remark on a rising cost, by the first trend of the cost. -/
def onCost (p : Policy α) (trends : List (Trend α)) : Except Failure (List Recommendation) := do
  match trends.find? (·.metric = "avg_cost") with
  | none => return []
  | some t =>
    if lt zero t.slope && lt p.costRise t.changePercent then
      return [{
        advice := .warning, isUrgent := false
        title := "Rising Costs Detected"
        description :=
          s!"Average cost per execution has increased by {← rounded t.changePercent}%."
        impact := "Continued cost increases could impact budget and ROI."
        action := "Review token usage patterns and consider prompt optimization."
        metrics := ["avg_cost", "avg_token_usage"] }]
    return []

/-- The remark on a low success rate. -/
def onSuccess (p : Policy α) (s : Summary α) : Except Failure (List Recommendation) := do
  if 0 < s.total && lt s.successRate p.leastSuccess then
    return [{
      advice := .warning, isUrgent := true
      title := "Low Success Rate"
      description :=
        s!"Success rate is {← rounded (s.successRate * ofNat 100)}%, " ++
          "indicating reliability issues."
      impact := "Low success rates lead to poor user experience and increased support costs."
      action := "Analyze error patterns and implement better error handling."
      metrics := ["success_rate", "error_rate"] }]
  return []

/-- The remark on many anomalies in the day before a moment. -/
def onAnomalies (p : Policy α) (now : Moment) (anomalies : List (Anomaly α)) :
    Except Failure (List Recommendation) := do
  let dayBefore ← (now.shift? (-(Calendar.day : Int))).mapError .calendar
  let recent ← (anomalies.filterM fun a => dayBefore.lt? a.time).mapError .calendar
  if p.burst < recent.length then
    return [{
      advice := .warning, isUrgent := false
      title := "Frequent Anomalies Detected"
      description := s!"{recent.length} anomalies detected in the last 24 hours."
      impact := "Frequent anomalies indicate instability that could affect reliability."
      action := "Review anomaly patterns and implement stability improvements."
      metrics := (recent.map (·.measure)).eraseDups }]
  return []

/-- The remark on a low quality. -/
def onQuality (p : Policy α) (s : Summary α) : Except Failure (List Recommendation) := do
  match s.quality with
  | none => return []
  | some quality =>
    if lt quality p.leastQuality then
      return [{
        advice := .optimization, isUrgent := false
        title := "Quality Improvement Opportunity"
        description := s!"Average quality score is {← rounded (quality * ofNat 100)}%."
        impact := "Higher quality scores correlate with better user satisfaction."
        action := "Review low-scoring executions and refine prompts."
        metrics := ["quality_score"] }]
    return []

/-- All remarks, in a fixed order. -/
def all (p : Policy α) (now : Moment) (s : Summary α) (trends : List (Trend α))
    (anomalies : List (Anomaly α)) : Except Failure (List Recommendation) := do
  return (← onTime p s) ++ (← onCost p trends) ++ (← onSuccess p s) ++
    (← onAnomalies p now anomalies) ++ (← onQuality p s)

end Recommendation

end Promptuary
