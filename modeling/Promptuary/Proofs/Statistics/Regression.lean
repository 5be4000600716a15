import Mathlib.Algebra.Order.Field.Basic
import Promptuary.Proofs.Statistics.Guarded
import Promptuary.Statistics.Regression

/-!
The line of least squares in exact arithmetic. The distances of points from the fitted line add up
to zero, also if each is weighted with the place of its point; so the squares of the distances from
any other line exceed those from the fitted one by a sum of squares. Main statement: the line is
drawn just if the points have one, it is the best of all lines, its numbers come of no division by
zero, and it moves along with the points.
-/

namespace Promptuary

/-! ### The parts of a fitted line -/

namespace Regression

open Scalar Sample

section

variable {α : Type} [Scalar α]

/-- The sum of the squares of the differences from the mean. -/
def variation (xs : List α) : α := arraySum (xs.map fun x => square (x - arrayMean xs))

/-- The slope of the line through points. -/
def slopeOf (xs ys : List α) : α :=
  arraySum (xs.zipWith (fun x y => (x - arrayMean xs) * (y - arrayMean ys)) ys) / variation xs

/-- Where the line through points is at zero. -/
def interceptOf (xs ys : List α) : α :=
  arrayMean ys - slopeOf xs ys * arrayMean xs

/-- What is left of the variation about the line through points. -/
def residualOf (xs ys : List α) : α :=
  arraySum (xs.zipWith (fun x y => square (y - (slopeOf xs ys * x + interceptOf xs ys))) ys)

/-- The error of the line through points that is left for a further one. -/
def errorOf (xs ys : List α) : α := Scalar.sqrt (residualOf xs ys / ofNat (xs.length - 2))

/-- The place on a line one step further on, and the margin on both of its sides. -/
def forecastOf (xs ys : List α) (width : α) : Forecast α :=
  let value := slopeOf xs ys * (xs.getLastD zero + one) + interceptOf xs ys
  let margin := width * errorOf xs ys
  ⟨value, value - margin, value + margin⟩

/-- The line through points, with all that is told of it. -/
def lineOf (xs ys : List α) (leastFit width : α) : Regression α where
  slope := slopeOf xs ys
  intercept := interceptOf xs ys
  fit := fitOf (residualOf xs ys) (variation ys)
  residualError := errorOf xs ys
  changePercent := percentChange (ys.headD zero) (ys.getLastD zero)
  forecast :=
    if lt leastFit (fitOf (residualOf xs ys) (variation ys)) then some (forecastOf xs ys width)
    else none

/-- There is a line through three or more points that do not all lie above one another. -/
theorem ofPoints_eq (xs ys : List α) (leastFit width : α) :
    ofPoints xs ys leastFit width =
      if xs.length < 3 ∨ xs.length ≠ ys.length then none
      else if same (variation xs) zero then none
      else some (lineOf xs ys leastFit width) := by
  unfold ofPoints
  simp only [Bool.or_eq_true, decide_eq_true_eq]
  rfl

end

end Regression

namespace Exact

open Regression

/-! ### Sums over points -/

section

variable {α β γ : Type} {xs : List α} {ys : List γ}

theorem map_zip_left (paired : xs.length = ys.length) (f : α → β) :
    ((xs.zip ys).map fun p => f p.1) = xs.map f := by
  conv_rhs => rw [← List.map_fst_zip paired.le, List.map_map]
  rfl

theorem map_zip_right (paired : xs.length = ys.length) (f : γ → β) :
    ((xs.zip ys).map fun p => f p.2) = ys.map f := by
  conv_rhs => rw [← List.map_snd_zip paired.ge, List.map_map]
  rfl

end

variable {α : Type} [Field α] [LinearOrder α] [FloorRing α] [Numerals α] {xs ys : List α}

theorem variation_eq (xs : List α) :
    variation xs = (xs.map fun x => (x - average xs) ^ 2).sum := by
  unfold variation
  rw [arraySum_eq, arrayMean_eq]
  simp only [Sample.square, pow_two]

/-! ### Distances from lines -/

/-- The sum of the squares of the distances of points from the line of a slope and an intercept,
along the second coordinate. -/
def squaredError (slope intercept : α) (xs ys : List α) : α :=
  (xs.zipWith (fun x y => (y - slope * x - intercept) ^ 2) ys).sum

/-- The distance of a point from the line through points. -/
def distance (xs ys : List α) (p : α × α) : α := p.2 - slopeOf xs ys * p.1 - interceptOf xs ys

theorem squaredError_eq (a b : α) (xs ys : List α) :
    squaredError a b xs ys = ((xs.zip ys).map fun p => (p.2 - a * p.1 - b) ^ 2).sum := by
  unfold squaredError
  rw [← List.map_uncurry_zip_eq_zipWith]
  rfl

theorem residual_eq (xs ys : List α) :
    residualOf xs ys = ((xs.zip ys).map fun p => distance xs ys p ^ 2).sum := by
  have same : ∀ x y : α, Sample.square (y - (slopeOf xs ys * x + interceptOf xs ys)) =
      distance xs ys (x, y) ^ 2 := by
    intro x y
    rw [Sample.square, distance]
    ring
  unfold residualOf
  rw [arraySum_eq]
  simp only [same]
  rw [← List.map_uncurry_zip_eq_zipWith]
  rfl

theorem residual_eq_squaredError (xs ys : List α) :
    residualOf xs ys = squaredError (slopeOf xs ys) (interceptOf xs ys) xs ys := by
  rw [residual_eq, squaredError_eq]
  rfl

theorem distance_eq (xs ys : List α) (p : α × α) :
    distance xs ys p = (p.2 - average ys) - slopeOf xs ys * (p.1 - average xs) := by
  unfold distance interceptOf
  rw [arrayMean_eq, arrayMean_eq]
  ring

section

variable (paired : xs.length = ys.length)
include paired

/-- The distances from the fitted line add up to zero. -/
theorem sum_distance : ((xs.zip ys).map (distance xs ys)).sum = 0 := by
  simp only [funext (distance_eq xs ys)]
  rw [sum_map_sub_mul, map_zip_left paired (· - average xs), map_zip_right paired (· - average ys),
    sum_sub_average, sum_sub_average, mul_zero, sub_zero]

/-- So they do if each is weighted with the place of its point. -/
theorem sum_distance_mul (varied : variation xs ≠ 0) :
    ((xs.zip ys).map fun p => distance xs ys p * (p.1 - average xs)).sum = 0 := by
  have slope : slopeOf xs ys * variation xs =
      ((xs.zip ys).map fun p => (p.1 - average xs) * (p.2 - average ys)).sum := by
    rw [slopeOf, div_mul_cancel₀ _ varied, arraySum_eq, arrayMean_eq, arrayMean_eq,
      ← List.map_uncurry_zip_eq_zipWith]
    rfl
  have each : ∀ p : α × α, distance xs ys p * (p.1 - average xs) =
      (p.1 - average xs) * (p.2 - average ys) - slopeOf xs ys * (p.1 - average xs) ^ 2 := by
    intro p
    rw [distance_eq]
    ring
  simp only [each]
  rw [sum_map_sub_mul, ← slope, map_zip_left paired fun x => (x - average xs) ^ 2, ← variation_eq,
    sub_self]

end

/-! ### Moved points -/

theorem average_add (filled : xs ≠ []) (c : α) :
    average (xs.map (· + c)) = average xs + c := by
  have sum : (xs.map (· + c)).sum = xs.sum + xs.length * c := by
    have moved := sum_sub xs (-c)
    simp only [sub_neg_eq_add, mul_neg] at moved
    exact moved
  rw [average, sum, List.length_map, add_div, mul_div_cancel_left₀ _ (length_ne_zero filled)]
  rfl

section

variable (filled : xs ≠ []) (c : α)
include filled

theorem sub_average_add (x : α) :
    x + c - Sample.arrayMean (xs.map (· + c)) = x - Sample.arrayMean xs := by
  rw [arrayMean_eq, arrayMean_eq, average_add filled]
  ring

theorem variation_add : variation (xs.map (· + c)) = variation xs := by
  unfold variation
  simp only [List.map_map, Function.comp_def, sub_average_add filled]

theorem slopeOf_add (ys : List α) : slopeOf (xs.map (· + c)) ys = slopeOf xs ys := by
  unfold slopeOf
  rw [variation_add filled, List.zipWith_map_left]
  simp only [sub_average_add filled]

theorem interceptOf_add (ys : List α) :
    interceptOf (xs.map (· + c)) ys = interceptOf xs ys - slopeOf xs ys * c := by
  unfold interceptOf
  rw [slopeOf_add filled, arrayMean_eq (xs.map _), average_add filled, arrayMean_eq xs]
  ring

theorem residualOf_add (ys : List α) : residualOf (xs.map (· + c)) ys = residualOf xs ys := by
  have same : ∀ x : α, slopeOf xs ys * (x + c) + (interceptOf xs ys - slopeOf xs ys * c) =
      slopeOf xs ys * x + interceptOf xs ys := by
    intro x
    ring
  unfold residualOf
  rw [slopeOf_add filled, interceptOf_add filled, List.zipWith_map_left]
  simp only [same]

theorem errorOf_add (ys : List α) : errorOf (xs.map (· + c)) ys = errorOf xs ys := by
  unfold errorOf
  rw [residualOf_add filled, List.length_map]

theorem forecastOf_add (ys : List α) (width : α) :
    forecastOf (xs.map (· + c)) ys width = forecastOf xs ys width := by
  have last : (xs.map (· + c)).getLastD Scalar.zero = xs.getLastD Scalar.zero + c := by
    rw [List.getLastD_eq_getLast?, List.getLastD_eq_getLast?, List.getLast?_map,
      List.getLast?_eq_some_getLast filled]
    rfl
  have value : slopeOf xs ys * (xs.getLastD Scalar.zero + c + Scalar.one) +
      (interceptOf xs ys - slopeOf xs ys * c) =
        slopeOf xs ys * (xs.getLastD Scalar.zero + Scalar.one) + interceptOf xs ys := by
    ring
  unfold forecastOf
  rw [slopeOf_add filled, interceptOf_add filled, errorOf_add filled, last, value]

/-- Where points are moved along the first coordinate, only the intercept of their line is
another. -/
theorem lineOf_add (ys : List α) (leastFit width : α) :
    lineOf (xs.map (· + c)) ys leastFit width =
      { lineOf xs ys leastFit width with
        intercept := interceptOf xs ys - slopeOf xs ys * c } := by
  unfold lineOf
  rw [slopeOf_add filled, interceptOf_add filled, residualOf_add filled, errorOf_add filled,
    forecastOf_add filled]

end

/-! ### Points with a line -/

theorem same_zero_iff (x : α) : Scalar.same x Scalar.zero = true ↔ x = 0 := by
  rw [zero_eq]
  exact decide_eq_true_iff

theorem fitOf_eq (residual total : α) : fitOf residual total =
    if total = 0 then if residual = 0 then 1 else 0 else 1 - residual / total := by
  unfold fitOf
  simp only [same_zero_iff]
  rw [zero_eq, one_eq]

/-- Points of which there is a line pair up and do not all lie above one another. -/
theorem eq_lineOf {leastFit width : α} {line : Regression α}
    (drawn : ofPoints xs ys leastFit width = some line) :
    xs.length = ys.length ∧ variation xs ≠ 0 ∧ line = lineOf xs ys leastFit width := by
  rw [ofPoints_eq] at drawn
  split at drawn
  · cases drawn
  · next enough =>
    split at drawn
    · cases drawn
    · next varied =>
      rw [same_zero_iff] at varied
      exact ⟨by omega, varied, (Option.some.inj drawn).symm⟩

/-- Moving points along the first coordinate moves their line with them. -/
theorem ofPoints_add (xs ys : List α) (c leastFit width : α) :
    ofPoints (xs.map (· + c)) ys leastFit width =
      (ofPoints xs ys leastFit width).map fun line =>
        { line with intercept := line.intercept - line.slope * c } := by
  rw [ofPoints_eq, ofPoints_eq, List.length_map]
  split
  · rfl
  · next enough =>
    have filled : xs ≠ [] := List.ne_nil_of_length_pos (by omega)
    rw [variation_add filled]
    split
    · rfl
    · rw [lineOf_add filled]
      rfl

/-! ### The least of the squared errors -/

variable [IsStrictOrderedRing α]

/-- Values vary unless they are all equal. -/
theorem variation_eq_zero_iff (xs : List α) :
    variation xs = 0 ↔ ∀ x ∈ xs, ∀ y ∈ xs, x = y := by
  rw [variation_eq, sum_map_sq_eq_zero_iff]
  constructor
  · intro zero x mem y among
    exact (sub_eq_zero.1 (zero x mem)).trans (sub_eq_zero.1 (zero y among)).symm
  · intro alike x mem
    rw [average_of_alike (fun y inside => alike y inside x mem) (List.ne_nil_of_mem mem), sub_self]

section

variable (paired : xs.length = ys.length)
include paired

/-- The error of a line exceeds that of the fitted one by a sum of squares. -/
theorem residual_le (varied : variation xs ≠ 0) (a b : α) :
    residualOf xs ys ≤ squaredError a b xs ys := by
  let k := interceptOf xs ys - b + (slopeOf xs ys - a) * average xs
  have each : ∀ p : α × α, p.2 - a * p.1 - b =
      distance xs ys p + ((slopeOf xs ys - a) * (p.1 - average xs) + k) := by
    intro p
    rw [distance]
    ring
  have excess : squaredError a b xs ys = residualOf xs ys +
      ((xs.zip ys).map fun p => ((slopeOf xs ys - a) * (p.1 - average xs) + k) ^ 2).sum := by
    rw [squaredError_eq]
    simp only [each]
    rw [sum_map_sq, sum_distance paired, sum_distance_mul paired varied, ← residual_eq]
    ring
  rw [excess]
  exact le_add_of_nonneg_right (sum_map_sq_nonneg _ _)

/-- The variation is the error of the level line through the mean. -/
theorem residual_le_variation (varied : variation xs ≠ 0) : residualOf xs ys ≤ variation ys := by
  refine (residual_le paired varied 0 (average ys)).trans_eq ?_
  have level : ∀ p : α × α, p.2 - 0 * p.1 - average ys = p.2 - average ys := by
    intro p
    ring
  rw [squaredError_eq, variation_eq, ← map_zip_right paired fun y => (y - average ys) ^ 2]
  simp only [level]

end

theorem residual_nonneg (xs ys : List α) : 0 ≤ residualOf xs ys := by
  rw [residual_eq]
  exact sum_map_sq_nonneg _ _

/-- Nothing is left of the variation just if all points lie on the line. -/
theorem residual_eq_zero_iff (xs ys : List α) :
    residualOf xs ys = 0 ↔ ∀ p ∈ xs.zip ys, p.2 = slopeOf xs ys * p.1 + interceptOf xs ys := by
  rw [residual_eq, sum_map_sq_eq_zero_iff]
  refine forall₂_congr fun p _ => ?_
  rw [distance, sub_sub, sub_eq_zero]

/-! ### Fit -/

section

variable (paired : xs.length = ys.length) (varied : variation xs ≠ 0)
include paired varied

/-- How well the line fits lies between zero and one; it is one just if nothing is left. -/
theorem fit_spec : 0 ≤ fitOf (residualOf xs ys) (variation ys) ∧
    fitOf (residualOf xs ys) (variation ys) ≤ 1 ∧
    (fitOf (residualOf xs ys) (variation ys) = 1 ↔ residualOf xs ys = 0) := by
  have least := residual_nonneg xs ys
  have most := residual_le_variation paired varied
  rw [fitOf_eq]
  split
  · next level =>
    have none : residualOf xs ys = 0 := le_antisymm (level ▸ most) least
    rw [if_pos none]
    exact ⟨zero_le_one, le_refl 1, fun _ => none, fun _ => rfl⟩
  · next sloped =>
    have positive : 0 < variation ys := lt_of_le_of_ne (least.trans most) (Ne.symm sloped)
    have share : residualOf xs ys / variation ys ≤ 1 := (div_le_one positive).2 most
    refine ⟨sub_nonneg.2 share, sub_le_self 1 (div_nonneg least positive.le), ?_⟩
    rw [sub_eq_self, div_eq_zero_iff, or_iff_left sloped]

end

end Exact

section

variable {α β : Type}

/-- A forecast with its numbers mapped. -/
def Forecast.map (f : α → β) (forecast : Forecast α) : Forecast β :=
  ⟨f forecast.value, f forecast.low, f forecast.high⟩

/-- A line with its numbers mapped. -/
def Regression.map (f : α → β) (line : Regression α) : Regression β where
  slope := f line.slope
  intercept := f line.intercept
  fit := f line.fit
  residualError := f line.residualError
  changePercent := f line.changePercent
  forecast := line.forecast.map (Forecast.map f)

end

namespace Guarded

open Exact Regression

variable {α : Type} [Field α] [LinearOrder α] [FloorRing α] [Numerals α] {xs ys : List α}

theorem variation_value (filled : xs ≠ []) :
    variation (xs.map value) = value (variation xs) := by
  unfold variation
  rw [arrayMean_value filled, List.map_map, ← arraySum_value, List.map_map]
  rfl

theorem fitOf_value (residual total : α) :
    fitOf (value residual) (value total) = value (fitOf residual total) := by
  unfold fitOf
  rw [zero_eq_value, same_value, same_value]
  split
  · split <;> rfl
  · next nonzero =>
    rw [same_zero_iff] at nonzero
    rw [div_value _ nonzero, one_eq_value, value_sub]

theorem percentChange_value (first last : α) :
    percentChange (value first) (value last) = value (percentChange first last) := by
  unfold percentChange
  rw [zero_eq_value, same_value]
  split
  · rfl
  · next nonzero =>
    rw [same_zero_iff] at nonzero
    rw [value_sub, div_value _ nonzero, ofNat_eq_value, value_mul]

section

variable (filled : xs ≠ []) (filled' : ys ≠ []) (varied : variation xs ≠ 0)
include filled filled' varied

theorem slopeOf_value : slopeOf (xs.map value) (ys.map value) = value (slopeOf xs ys) := by
  unfold slopeOf
  rw [arrayMean_value filled, arrayMean_value filled', variation_value filled, List.zipWith_map]
  simp only [value_sub, value_mul]
  rw [← List.map_zipWith, arraySum_value, div_value _ varied]

theorem interceptOf_value :
    interceptOf (xs.map value) (ys.map value) = value (interceptOf xs ys) := by
  unfold interceptOf
  rw [arrayMean_value filled, arrayMean_value filled', slopeOf_value filled filled' varied, value_mul,
    value_sub]

theorem residualOf_value :
    residualOf (xs.map value) (ys.map value) = value (residualOf xs ys) := by
  unfold residualOf
  rw [slopeOf_value filled filled' varied, interceptOf_value filled filled' varied,
    List.zipWith_map]
  simp only [value_sub, value_mul, value_add, square_value]
  rw [← List.map_zipWith, arraySum_value]

variable [IsStrictOrderedRing α] (many : 3 ≤ xs.length)
include many

theorem errorOf_value : errorOf (xs.map value) (ys.map value) = value (errorOf xs ys) := by
  have some : (Scalar.ofNat (xs.length - 2) : α) ≠ 0 := by
    rw [ofNat_eq]
    exact Nat.cast_ne_zero.2 (by omega)
  have positive : 0 ≤ residualOf xs ys / (Scalar.ofNat (xs.length - 2) : α) := by
    rw [ofNat_eq]
    exact div_nonneg (residual_nonneg xs ys) (Nat.cast_nonneg _)
  unfold errorOf
  rw [residualOf_value filled filled' varied, List.length_map, ofNat_eq_value, div_value _ some,
    sqrt_value positive]

theorem forecastOf_value (width : α) :
    forecastOf (xs.map value) (ys.map value) (value width) =
      (forecastOf xs ys width).map value := by
  have last : (xs.map value).getLastD Scalar.zero = value (xs.getLastD Scalar.zero) := by
    rw [List.getLastD_eq_getLast?, List.getLastD_eq_getLast?, List.getLast?_map,
      List.getLast?_eq_some_getLast filled]
    rfl
  unfold forecastOf
  rw [slopeOf_value filled filled' varied, interceptOf_value filled filled' varied,
    errorOf_value filled filled' varied many, last]
  rfl

theorem lineOf_value (leastFit width : α) :
    lineOf (xs.map value) (ys.map value) (value leastFit) (value width) =
      (lineOf xs ys leastFit width).map value := by
  have first : (ys.map value).headD Scalar.zero = value (ys.headD Scalar.zero) := by
    cases ys with
    | nil => exact absurd rfl filled'
    | cons y ys => rfl
  have last : (ys.map value).getLastD Scalar.zero = value (ys.getLastD Scalar.zero) := by
    rw [List.getLastD_eq_getLast?, List.getLastD_eq_getLast?, List.getLast?_map,
      List.getLast?_eq_some_getLast filled']
    rfl
  unfold lineOf Regression.map
  rw [slopeOf_value filled filled' varied, interceptOf_value filled filled' varied,
    residualOf_value filled filled' varied, variation_value filled', fitOf_value,
    errorOf_value filled filled' varied many, forecastOf_value filled filled' varied many, first,
    last, percentChange_value, lt_value]
  split <;> rfl

end

/-- A guard against zero divisors makes no difference. -/
theorem ofPoints_value [IsStrictOrderedRing α] (xs ys : List α) (leastFit width : α) :
    ofPoints (xs.map value) (ys.map value) (value leastFit) (value width) =
      (ofPoints xs ys leastFit width).map (Regression.map value) := by
  rw [ofPoints_eq, ofPoints_eq, List.length_map, List.length_map]
  split
  · rfl
  · next enough =>
    have filled : xs ≠ [] := List.ne_nil_of_length_pos (by omega)
    have filled' : ys ≠ [] := List.ne_nil_of_length_pos (by omega)
    rw [variation_value filled, zero_eq_value, same_value]
    split
    · rfl
    · next varied =>
      rw [same_zero_iff] at varied
      rw [lineOf_value filled filled' varied (by omega)]
      rfl

end Guarded

namespace Exact

open Regression

variable {α : Type} [Field α] [LinearOrder α] [IsStrictOrderedRing α] [FloorRing α] [Numerals α]

theorem ofPoints_eq_none_iff (xs ys : List α) (leastFit width : α) :
    ofPoints xs ys leastFit width = none ↔
      xs.length ≠ ys.length ∨ xs.length < 3 ∨ ∀ x ∈ xs, ∀ y ∈ xs, x = y := by
  rw [ofPoints_eq, ← variation_eq_zero_iff, ← same_zero_iff]
  split
  · next short => exact ⟨fun _ => by omega, fun _ => rfl⟩
  · next enough =>
    split
    · next level => exact ⟨fun _ => .inr (.inr level), fun _ => rfl⟩
    · next varied =>
      refine ⟨nofun, ?_⟩
      rintro (unpaired | few | level)
      · exact absurd (.inr unpaired) enough
      · exact absurd (.inl few) enough
      · exact absurd level varied

/-- The line through points is the line of least squares. There is none just if the coordinates do
not pair up, there are fewer than three points, or all lie above one another. No line has a smaller
squared error; the fit lies between zero and one, and is one just if all points lie on the line.
With a guard against zero divisors the numbers are the same, so there are none. Moving the points
along the first coordinate moves the line with them and changes nothing else. -/
theorem ofPoints_least_squares (xs ys : List α) (leastFit width : α) :
    (ofPoints xs ys leastFit width = none ↔
      xs.length ≠ ys.length ∨ xs.length < 3 ∨ ∀ x ∈ xs, ∀ y ∈ xs, x = y) ∧
      (∀ line, ofPoints xs ys leastFit width = some line →
        (∀ a b, squaredError line.slope line.intercept xs ys ≤ squaredError a b xs ys) ∧
        0 ≤ line.fit ∧ line.fit ≤ 1 ∧
        (line.fit = 1 ↔ ∀ p ∈ xs.zip ys, p.2 = line.slope * p.1 + line.intercept)) ∧
      ofPoints (xs.map Guarded.value) (ys.map Guarded.value) (.value leastFit) (.value width) =
        (ofPoints xs ys leastFit width).map (Regression.map Guarded.value) ∧
      ∀ c, ofPoints (xs.map (· + c)) ys leastFit width =
        (ofPoints xs ys leastFit width).map fun line =>
          { line with intercept := line.intercept - line.slope * c } := by
  refine ⟨ofPoints_eq_none_iff .., fun line drawn => ?_, Guarded.ofPoints_value ..,
    fun c => ofPoints_add ..⟩
  obtain ⟨paired, varied, rfl⟩ := eq_lineOf drawn
  obtain ⟨least, most, full⟩ := fit_spec paired varied
  refine ⟨fun a b => ?_, least, most, full.trans (residual_eq_zero_iff xs ys)⟩
  exact (residual_eq_squaredError xs ys).ge.trans (residual_le paired varied a b)

/-- Values that go up and down. -/
def unsteadyValues : List ℚ := [5, 1, 6, 0, 5]

theorem ofPoints_least_squares_unsteadyValues :
    ∃ line, ofPoints [0, 1, 2, 3, 4] unsteadyValues (7 / 10) (196 / 100) = some line ∧
      line.slope = -1 / 10 ∧ line.intercept = 18 / 5 ∧ line.fit < 1 ∧
      ∀ a b, squaredError line.slope line.intercept [0, 1, 2, 3, 4] unsteadyValues ≤
        squaredError a b [0, 1, 2, 3, 4] unsteadyValues := by
  obtain ⟨absent, spec, -, -⟩ :=
    ofPoints_least_squares [0, 1, 2, 3, 4] unsteadyValues (7 / 10) (196 / 100)
  have drawable : ¬ ([0, 1, 2, 3, 4].length ≠ unsteadyValues.length ∨
      [0, 1, 2, 3, 4].length < 3 ∨ ∀ x ∈ [(0 : ℚ), 1, 2, 3, 4], ∀ y ∈ [0, 1, 2, 3, 4], x = y) := by
    decide +kernel
  obtain ⟨line, drawn⟩ := Option.ne_none_iff_exists'.1 fun none => drawable (absent.1 none)
  have slope : slopeOf [0, 1, 2, 3, 4] unsteadyValues = -1 / 10 := by decide +kernel
  have intercept : interceptOf [0, 1, 2, 3, 4] unsteadyValues = 18 / 5 := by decide +kernel
  obtain ⟨-, -, same⟩ := eq_lineOf drawn
  have slope' : line.slope = -1 / 10 := same ▸ slope
  have intercept' : line.intercept = 18 / 5 := same ▸ intercept
  obtain ⟨least, -, most, full⟩ := spec line drawn
  refine ⟨line, drawn, slope', intercept', lt_of_le_of_ne most fun exact => ?_, least⟩
  have first := full.1 exact (0, 5) (by simp [unsteadyValues])
  rw [slope', intercept'] at first
  norm_num at first

end Exact

end Promptuary
