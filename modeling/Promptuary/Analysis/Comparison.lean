import Promptuary.Execution.Basic

/-!
Comparison of two periods: how each metric changed, and whether it got better.
-/

namespace Promptuary

open Scalar

variable {α : Type} [Scalar α]

/-- How a metric changed. -/
structure Change (α : Type) where
  current : α
  earlier : α
  /-- In percent of the earlier value; zero if that is zero. -/
  percent : α
  isImprovement : Bool

/-- How metrics changed from an earlier period. -/
structure PeriodComparison (α : Type) where
  label : String
  changes : Entries String (Change α)

namespace Change

/-- The change between two values. -/
def between (lowerIsBetter : Bool) (current earlier : α) : Change α :=
  let percent :=
    if same earlier zero then zero else (current - earlier) / earlier * ofNat 100
  { current, earlier, percent
    isImprovement := if lowerIsBetter then lt percent zero else lt zero percent }

/-- A change as an object. -/
def toDatum (c : Change α) : Datum :=
  .object
    [("current", Scalar.toDatum c.current),
     ("comparison", Scalar.toDatum c.earlier),
     ("change_percent", Scalar.toDatum c.percent),
     ("is_improvement", .bool c.isImprovement)]

end Change

namespace PeriodComparison

/-- Compares two summaries. The quality is compared only if both have one. -/
def of (label : String) (current earlier : Summary α) : PeriodComparison α :=
  let quality := match current.quality, earlier.quality with
    | some now, some before => [("quality_score", Change.between false now before)]
    | _, _ => []
  { label
    changes :=
      [("success_rate", .between false current.successRate earlier.successRate),
       ("avg_response_time", .between true current.responseTime earlier.responseTime),
       ("avg_cost", .between true current.cost earlier.cost),
       ("avg_token_usage", .between true current.tokenUsage earlier.tokenUsage)] ++ quality }

/-- A comparison as an object. -/
def toDatum (c : PeriodComparison α) : Datum :=
  .object
    [("label", .text c.label),
     ("metrics", .object (c.changes.map fun (name, change) => (name, change.toDatum)))]

end PeriodComparison

end Promptuary
