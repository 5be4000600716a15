import Promptuary.Statistics.Sample

/-!
The straight line that fits points best in the sense of least squares, how well it fits, and where
it leads one step further on.
-/

namespace Promptuary

open Scalar Sample

variable {α : Type} [Scalar α]

/-- A value expected next, with the bounds between which it is expected. -/
structure Forecast (α : Type) where
  value : α
  low : α
  high : α

/-- A fitted line. -/
structure Regression (α : Type) where
  slope : α
  intercept : α
  /-- The share of the variation that the line explains. -/
  fit : α
  residualError : α
  /-- The change from the first to the last value in percent of the first. -/
  changePercent : α
  forecast : Option (Forecast α)

namespace Regression

/-- The change from one value to another in percent of the first; zero if the first is zero. -/
def percentChange (first last : α) : α :=
  if same first zero then zero else (last - first) / first * ofNat 100

/-- How well a line fits, given the sums of squares about the line and about the mean. -/
def fitOf (residual total : α) : α :=
  if same total zero then (if same residual zero then one else zero) else one - residual / total

/-- The line through points given by their coordinates. There is none for fewer than three points,
for coordinates that do not pair up, and for points that all lie above one another. A forecast is
made where the fit is better than `leastFit`; its bounds lie `width` residual errors away. -/
def ofPoints (xs ys : List α) (leastFit : α := decimal 7 1) (width : α := decimal 196 2) :
    Option (Regression α) :=
  if xs.length < 3 || xs.length ≠ ys.length then none
  else
    let xMean := arrayMean xs
    let yMean := arrayMean ys
    let sxx := arraySum (xs.map fun x => square (x - xMean))
    if same sxx zero then none
    else
      let slope := arraySum (xs.zipWith (fun x y => (x - xMean) * (y - yMean)) ys) / sxx
      let intercept := yMean - slope * xMean
      let residual := arraySum (xs.zipWith (fun x y => square (y - (slope * x + intercept))) ys)
      let total := arraySum (ys.map fun y => square (y - yMean))
      let fit := fitOf residual total
      let residualError := Scalar.sqrt (residual / ofNat (xs.length - 2))
      let forecast :=
        if lt leastFit fit then
          let value := slope * (xs.getLastD zero + one) + intercept
          let margin := width * residualError
          some ⟨value, value - margin, value + margin⟩
        else none
      some
        { slope, intercept, fit, residualError, forecast,
          changePercent := percentChange (ys.headD zero) (ys.getLastD zero) }

/-- The line through points whose coordinates are amounts. The amounts matter only if there are
enough points and the coordinates pair up. -/
def ofAmounts (xs ys : List (Amount α)) (leastFit width : Amount α) :
    Except NumberError (Option (Regression α)) :=
  if xs.length < 3 || xs.length ≠ ys.length then .ok none
  else do
    let xs ← xs.mapM Amount.toScalar
    let ys ← ys.mapM Amount.toScalar
    return ofPoints xs ys (← leastFit.toScalar) (← width.toScalar)

end Regression

end Promptuary
