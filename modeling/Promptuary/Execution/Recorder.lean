import Promptuary.Calendar.Order
import Promptuary.Document
import Promptuary.Operation
import Promptuary.Statistics.Sample

/-!
The recorder keeps the latest executions of each template, up to a bound, in its own state and as
documents in the repository. What they amount to is computed from them whenever it is asked for.
-/

namespace Promptuary

/-- The last items of a list. -/
def lastItems {β : Type} (count : Nat) (xs : List β) : List β := xs.drop (xs.length - count)

/-- A recorder of executions. -/
structure Recorder (α : Type) where
  enabled : Bool
  /-- How many executions of a template are kept. -/
  bound : Nat
  buffers : Entries String (List (Execution α)) := []

namespace Recorder

open Operation

variable {α : Type} [Scalar α]

/-- The executions of a template that are kept, the oldest first. -/
def executions (r : Recorder α) (id : String) : List (Execution α) := (r.buffers.get? id).getD []

/-- Puts the executions of a template into the recorder's state. -/
def put (id : String) (buffer : List (Execution α)) (r : Recorder α) : Recorder α :=
  { r with buffers := r.buffers.put id buffer }

/-- A recorder that keeps nothing so far. -/
def cleared (r : Recorder α) : Recorder α := { r with buffers := [] }

/-! ### Recording -/

/-- Executions as a document. -/
def document (buffer : List (Execution α)) : Except Failure Datum :=
  documentOfAll Execution.document buffer

/-- Records an execution, if the recorder is enabled. -/
def record (e : Execution α) : Operation (Recorder α) Unit := do
  let r ← own
  if r.enabled then
    let id := e.templateId
    let buffer := lastItems r.bound (r.executions id ++ [e])
    onFailure (fun f => announce (.failed id "record_execution" f.message [])) do
      store .executions id (← attempt (document buffer))
    change (put id buffer)
    announce (.executionRecorded id e.label e.success (Scalar.toDatum e.responseTime))

/-- Loads the executions of a template. -/
def loadOne (id : String) : Operation (Recorder α) Unit := do
  let stored ← fetch .executions id
  if stored.isPresent then
    let shape := Schema.list (Execution.shape (α := α) (← get).shared.clock.current)
    let buffer ← attempt ((shape stored).toExcept.mapError .schema)
    change fun r => r.put id (lastItems r.bound buffer)

/-- Loads the executions of the given templates, or of all; those that cannot be read are left
out. -/
def load (ids : Option (List String) := none) : Operation (Recorder α) Unit := do
  let listed ← match ids with
    | some ids => pure ids
    | none => tryCatch (keys .executions) fun _ => pure []
  for id in listed do
    tryCatch (loadOne id) fun _ => pure ()

/-! ### Summaries -/

/-- The mean of values; zero if there is none. -/
def meanOrZero (values : List α) : α := if values.isEmpty then Scalar.zero else Sample.mean values

/-- The mean of token totals; zero if there is none. -/
def meanTokens (totals : List Int) : Except NumberError α :=
  if totals.isEmpty then .ok Scalar.zero else Scalar.quotient (Scalar.tally totals) totals.length

/-- What the executions of a template amount to; nothing if there is none. Times, tokens and costs
are those of the successful ones. -/
def summary (r : Recorder α) (id : String) : Except Failure (Option (Summary α)) := do
  let all := r.executions id
  if all.isEmpty then return none
  let successful := all.filter (·.success)
  let scores := all.filterMap (·.quality)
  let successRate ← (Scalar.quotient successful.length all.length).mapError .number
  let tokenUsage ← (meanTokens (successful.map (·.tokens.total))).mapError .number
  let lastExecuted ← (Calendar.Moment.latest? (all.map (·.executedAt))).mapError .calendar
  return some
    { total := all.length
      successRate
      responseTime := meanOrZero (successful.map (·.responseTime))
      tokenUsage
      cost := meanOrZero (successful.map (·.cost))
      lastExecuted
      quality := if scores.isEmpty then none else some (Sample.mean scores) }

/-- How often a template was executed, as far as the executions are kept. -/
def usage (r : Recorder α) (id : String) : Nat := (r.executions id).length

/-- A mark that is better for more successes and shorter times; zero without executions. -/
def score (r : Recorder α) (id : String) : Except Failure α := do
  match ← r.summary id with
  | none => return Scalar.zero
  | some s =>
    let left : α := Scalar.ofNat 1000 - s.responseTime
    let speed := (if Scalar.lt Scalar.zero left then left else Scalar.zero) / Scalar.ofNat 1000
    return (s.successRate + speed) / Scalar.ofNat 2

end Recorder

end Promptuary
