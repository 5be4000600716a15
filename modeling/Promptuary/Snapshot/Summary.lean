import Promptuary.Calendar.Order
import Promptuary.Execution.Basic
import Promptuary.Snapshot.Rollup

/-!
The summary of snapshots: what the executions in all of them amount to.
-/

namespace Promptuary

variable {α : Type} [Scalar α]

open Snapshot in
/-- The summary of snapshots. Without any execution it is the summary of nothing. -/
def Summary.ofSnapshots (snapshots : List (Snapshot α)) : Except Failure (Summary α) := do
  let total := totalCount snapshots
  if total = 0 then return .none
  let mean (f : Metrics α → α) : Except Failure α := (meanOf f snapshots).mapError .number
  return {
    total
    successRate := ← mean (·.successRate)
    responseTime := ← mean (·.responseTime)
    tokenUsage := ← mean (·.tokenUsage)
    cost := ← mean (·.cost)
    lastExecuted := ←
      (Calendar.Moment.latest? (snapshots.map (·.start))).mapError .calendar
    quality := ← (meanQuality snapshots).mapError .number }

end Promptuary
