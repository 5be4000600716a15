import Promptuary.Execution.Basic
import Promptuary.Snapshot.Basic

/-!
Snapshots of minutes grow with each execution: every mean is carried on from the mean and the count
before. Adding an execution has two parts, since the second one can fail on a token count that is
too large.
-/

namespace Promptuary

open Scalar

variable {α : Type} [Scalar α]

/-- A count as a scalar; counts are small. -/
def Scalar.ofCount (n : Int) : α := (ofInt? n).getD zero

/-- The mean of values after one more value, from the mean of those before and their count. -/
def carryMean (mean : α) (before : Int) (value : α) : α :=
  (mean * ofCount before + value) / ofCount (before + 1)

/-- One for true, zero for false. -/
def Scalar.indicator (b : Bool) : α := if b then one else zero

namespace Metrics

/-- The first part: count, success and time. -/
def addOutcome (e : Execution α) (m : Metrics α) : Metrics α :=
  let successRate := carryMean m.successRate m.count (indicator e.success)
  { m with
    count := m.count + 1
    successRate
    errorRate := one - successRate
    responseTime := carryMean m.responseTime m.count e.responseTime }

/-- The quality after an execution; one without quality changes nothing. -/
def addQuality (score : Option α) (m : Metrics α) : Metrics α :=
  match score with
  | .none => m
  | .some score =>
    { m with
      quality := some (carryMean (m.quality.getD zero) m.qualityCount score)
      qualityCount := m.qualityCount + 1 }

/-- A score changes nothing but the quality and its count. -/
theorem addQuality_eq (score : Option α) (m : Metrics α) : m.addQuality score =
    { m with
      quality := (m.addQuality score).quality
      qualityCount := (m.addQuality score).qualityCount } := by
  cases score <;> rfl

/-- The second part: tokens, cost and quality, where the execution is counted already. -/
def addAmounts (e : Execution α) (m : Metrics α) : Except NumberError (Metrics α) := do
  let tokens : α ← Scalar.ofInt e.tokens.total
  let totalCost := m.totalCost + e.cost
  let counted : Metrics α :=
    { m with
      tokenUsage := carryMean m.tokenUsage (m.count - 1) tokens
      totalCost
      cost := totalCost / ofCount m.count }
  return counted.addQuality e.quality

end Metrics

/-- Provider metrics after one more execution. -/
def ProviderMetrics.add (e : Execution α) (p : ProviderMetrics α) : ProviderMetrics α :=
  { count := p.count + 1
    responseTime := carryMean p.responseTime p.count e.responseTime
    errorRate := carryMean p.errorRate p.count (indicator (!e.success))
    cost := carryMean p.cost p.count e.cost }

namespace Snapshot

/-- A snapshot of no executions. -/
def empty (templateId : String) (interval : Calendar.Interval) (start : Calendar.Moment) :
    Snapshot α :=
  { templateId, interval, start, metrics := .none, providers := [] }

/-- Adds an execution to the metrics of its provider. -/
def addProvider (e : Execution α) (s : Snapshot α) : Snapshot α :=
  let p := (s.providers.get? e.provider).getD .none
  { s with providers := s.providers.put e.provider (p.add e) }

/-- A snapshot with other metrics. -/
def withMetrics (m : Metrics α) (s : Snapshot α) : Snapshot α := { s with metrics := m }

/-- The percentiles of the response times if they are those of all executions of the snapshot;
otherwise its mean stands for each. -/
def withSpread (times : List α) (s : Snapshot α) : Snapshot α :=
  let mean := s.metrics.responseTime
  let spread := if times.length = s.metrics.count then Sample.spread times else ⟨mean, mean, mean⟩
  s.withMetrics { s.metrics with spread }

end Snapshot

end Promptuary
