import Promptuary.Snapshot.Basic

/-!
Rolling snapshots up: what several snapshots of one template amount to together. Means are weighted
with the counts of executions, means of quality with the counts of those that have one.
-/

namespace Promptuary

open Scalar Sample

variable {α : Type} [Scalar α]

/-! ### Summaries -/

namespace Snapshot

/-- The weighted mean of a metric of several snapshots. -/
def meanOf (f : Metrics α → α) (snapshots : List (Snapshot α)) : Except NumberError α :=
  countedMean (snapshots.map fun s => f s.metrics) (snapshots.map (·.metrics.count))

/-- The snapshots that have a quality. -/
def scored (snapshots : List (Snapshot α)) : List (Snapshot α) :=
  snapshots.filter (·.metrics.quality.isSome)

/-- The weighted mean of the quality of several snapshots; nothing if none has one. -/
def meanQuality (snapshots : List (Snapshot α)) : Except NumberError (Option α) :=
  let scored := scored snapshots
  if scored.isEmpty then .ok none
  else
    (countedMean (scored.filterMap (·.metrics.quality))
      (scored.map (·.metrics.qualityCount))).map some

/-- The number of executions in several snapshots. -/
def totalCount (snapshots : List (Snapshot α)) : Int :=
  Scalar.tally (snapshots.map (·.metrics.count))

/-! ### Providers -/

/-- The metrics of each provider in several snapshots, in the order of first appearance. -/
def byProvider (snapshots : List (Snapshot α)) : Entries String (List (ProviderMetrics α)) :=
  (snapshots.flatMap (·.providers)).foldl
    (fun all (name, p) => all.put name ((all.get? name).getD [] ++ [p])) []

end Snapshot

/-- What several metrics of one provider amount to. -/
def ProviderMetrics.merge (entries : List (ProviderMetrics α)) :
    Except NumberError (ProviderMetrics α) := do
  let counts := entries.map (·.count)
  return {
    count := Scalar.tally counts
    responseTime := ← countedMean (entries.map (·.responseTime)) counts
    errorRate := ← countedMean (entries.map (·.errorRate)) counts
    cost := ← countedMean (entries.map (·.cost)) counts }

namespace Snapshot

/-! ### Custom metrics -/

/-- The names of the custom metrics of several snapshots, in the order of first appearance. -/
def customNames (snapshots : List (Snapshot α)) : List String :=
  (snapshots.flatMap (·.metrics.custom.keys)).eraseDups

/-- The weighted mean of a custom metric over the snapshots that have it. -/
def meanCustom (snapshots : List (Snapshot α)) (name : String) : Except NumberError α :=
  let having := snapshots.filter (·.metrics.custom.has name)
  countedMean (having.filterMap (·.metrics.custom.get? name)) (having.map (·.metrics.count))

/-! ### Rollups -/

/-- The percentiles of the response times if they are those of all executions; otherwise the
weighted means of the percentiles of several snapshots. -/
def mergeSpread (snapshots : List (Snapshot α)) (times : List α) :
    Except NumberError (Spread α) := do
  if !times.isEmpty && times.length = totalCount snapshots then return Sample.spread times
  return {
    p50 := ← meanOf (·.spread.p50) snapshots
    p95 := ← meanOf (·.spread.p95) snapshots
    p99 := ← meanOf (·.spread.p99) snapshots }

/-- What several snapshots amount to; `times` are the response times of the executions in the window
that are still known. -/
def mergeMetrics (snapshots : List (Snapshot α)) (times : List α) :
    Except NumberError (Metrics α) := do
  let count := totalCount snapshots
  let totalCost := sum (snapshots.map (·.metrics.totalCost))
  let cost : α ← if count = 0 then .ok zero else (totalCost / ·) <$> Scalar.ofInt count
  return {
    count, totalCost, cost
    successRate := ← meanOf (·.successRate) snapshots
    errorRate := ← meanOf (·.errorRate) snapshots
    responseTime := ← meanOf (·.responseTime) snapshots
    tokenUsage := ← meanOf (·.tokenUsage) snapshots
    quality := ← meanQuality snapshots
    qualityCount := Scalar.tally ((scored snapshots).map (·.metrics.qualityCount))
    spread := ← mergeSpread snapshots times
    custom := ← (customNames snapshots).mapM fun name =>
      return (name, ← meanCustom snapshots name) }

/-- Rolls snapshots up into one of a longer window. -/
def rollUp (templateId : String) (interval : Calendar.Interval) (start : Calendar.Moment)
    (snapshots : List (Snapshot α)) (times : List α) : Except NumberError (Snapshot α) := do
  return {
    templateId, interval, start
    metrics := ← mergeMetrics snapshots times
    providers := ← (byProvider snapshots).mapM fun (name, entries) =>
      return (name, ← ProviderMetrics.merge entries) }

end Snapshot

end Promptuary
