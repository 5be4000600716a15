import Promptuary.Statistics.Scalar

/-!
Statistics of a list of measured values: mean, deviation and percentiles, and means with weights.
-/

namespace Promptuary.Sample

open Scalar

variable {α : Type} [Scalar α]

/-! ### Mean and deviation -/

/-- Mean and deviation of a list of values. -/
structure Description (α : Type) where
  mean : α
  /-- The square root of the mean square of the differences from the mean. -/
  deviation : α
  count : Nat

/-- The mean of values; there has to be one. -/
def mean (xs : List α) : α := sum xs / ofNat xs.length

/-- The mean of an array of values; there has to be one. -/
def arrayMean (xs : List α) : α := arraySum xs / ofNat xs.length

/-- The square of a scalar. -/
def square (x : α) : α := x * x

/-- Mean and deviation of values; both are zero if there is none. -/
def describe (xs : List α) : Description α :=
  if xs.isEmpty then ⟨zero, zero, 0⟩
  else
    let m := arrayMean xs
    ⟨m, Scalar.sqrt (arrayMean (xs.map fun x => square (x - m))), xs.length⟩

/-! ### Percentiles -/

/-- Values in increasing order. Values that cannot be compared go to the end. -/
def sorted (xs : List α) : List α :=
  let (proper, others) := xs.partition fun x => same x x
  proper.mergeSort (fun x y => !lt y x) ++ others

/-- A value between two others; the nearer one is the base of the calculation. -/
def between (low high share : α) : α :=
  if lt share (decimal 5 1) then low + (high - low) * share
  else high - (high - low) * (one - share)

/-- The value at a share of the way from the first to the last of values in order, between
neighbours if there is none exactly there. The last value has itself as its neighbour. -/
def atShare (ordered : List α) (share : α) : α :=
  let last := ordered.length - 1
  let position := ofNat last * share
  let before := (floor position).toNat
  let value (i : Nat) : α := (ordered[i]?).getD zero
  if last ≤ before then between (value last) (value last) (position + one)
  else between (value before) (value (before + 1)) (position - ofNat before)

/-- Whether a share lies within zero to one. -/
def isShare (share : α) : Bool := le zero share && le share one

/-- The values below which given percentages of the values lie. One value that cannot be compared
makes all of them such. -/
def percentiles (xs points : List α) : Except NumberError (List α) :=
  let shares := points.map (· / ofNat 100)
  if xs.isEmpty then .ok (points.map fun _ => zero)
  else if shares.all isShare then
    match xs.find? fun x => !same x x with
    | some x => .ok (points.map fun _ => x)
    | none =>
      let ordered := sorted xs
      .ok (shares.map (atShare ordered))
  else .error .percentage

/-- Three percentiles that are kept together. -/
structure Spread (α : Type) where
  p50 : α
  p95 : α
  p99 : α

/-- The three percentiles of values. -/
def spread (xs : List α) : Spread α :=
  match percentiles xs [ofNat 50, ofNat 95, ofNat 99] with
  | .ok [p50, p95, p99] => ⟨p50, p95, p99⟩
  | _ => ⟨zero, zero, zero⟩

/-! ### Means with weights -/

/-- A value or a weight: a count or a scalar. -/
inductive Amount (α : Type) where
  | count (n : Int)
  | scalar (x : α)

/-- An amount as a scalar. -/
def Amount.toScalar : Amount α → Except NumberError α
  | .count n => ofInt n
  | .scalar x => .ok x

/-- The sum of two amounts; that of two counts is exact. -/
def Amount.add : Amount α → Amount α → Except NumberError (Amount α)
  | .count m, .count n => .ok (.count (m + n))
  | a, b => do return .scalar ((← a.toScalar) + (← b.toScalar))

/-- The sum of amounts, added from the first to the last. -/
def total (amounts : List (Amount α)) : Except NumberError α := do
  (← amounts.foldlM Amount.add (.count 0)).toScalar

/-- The mean of values with weights: the sum of products over the total weight, or zero if that is
zero. -/
def weightedMean (values weights : List (Amount α)) : Except NumberError α := do
  let total ← total weights
  if same total zero then return zero
  let values ← values.mapM Amount.toScalar
  let weights ← weights.mapM Amount.toScalar
  if values.length ≠ weights.length then throw (.lengths values.length weights.length)
  return sum (values.zipWith (· * ·) weights) / total

/-- The percentiles of amounts. If there is no value, the points do not matter. -/
def percentilesOfAmounts (values points : List (Amount α)) : Except NumberError (List α) :=
  if values.isEmpty then .ok (points.map fun _ => zero)
  else do percentiles (← values.mapM Amount.toScalar) (← points.mapM Amount.toScalar)

/-- The mean of values with counts as weights. -/
def countedMean (values : List α) (counts : List Int) : Except NumberError α :=
  weightedMean (values.map .scalar) (counts.map .count)

end Promptuary.Sample
