import Mathlib.Algebra.BigOperators.Group.List.Basic
import Mathlib.Algebra.Order.Floor.Defs
import Mathlib.Algebra.Order.Ring.Defs
import Mathlib.Data.Rat.Floor
import Mathlib.Tactic.FieldSimp
import Mathlib.Tactic.Ring
import Promptuary.Proofs.Statistics.Counts
import Promptuary.Snapshot.Minute

/-!
Exact arithmetic: scalars from an ordered field, where nothing is rounded and nothing lies out of
range. A weighted mean is a quotient of sums there, and a mean that is carried on is the mean of all
values.
-/

namespace Promptuary

/-- What scalars of a field need besides its own arithmetic. Nothing here is assumed of it. -/
class Numerals (α : Type) where
  sqrt : α → α
  round : α → Except NumberError Int
  toDatum : α → Datum
  shape : Schema.Shape α

/-- Rational numbers are written as numerator and denominator. Their roots are rounded down, and
halves up. -/
instance : Numerals ℚ where
  sqrt x := Nat.sqrt ⌊x⌋.toNat
  round x := .ok (round x)
  toDatum x := .list [.int x.num, .int x.den]
  shape
    | .list [.int n, .int d] => .valid (n / d : ℚ)
    | _ => Schema.fault .number

namespace Exact

/-! ### Sums -/

section

variable {α β : Type} [Field α]

theorem sum_map_sub_mul (f g : β → α) (c : α) (l : List β) :
    (l.map fun p => f p - c * g p).sum = (l.map f).sum - c * (l.map g).sum := by
  induction l with
  | nil => simp
  | cons p l ih =>
    simp only [List.map_cons, List.sum_cons, ih]
    ring

theorem sum_sub (xs : List α) (c : α) : (xs.map (· - c)).sum = xs.sum - xs.length * c := by
  induction xs with
  | nil => simp
  | cons x xs ih =>
    rw [List.map_cons, List.sum_cons, ih, List.sum_cons, List.length_cons]
    push_cast
    ring

/-- The square of a sum with a further line, added up. -/
theorem sum_map_sq (r d : β → α) (c k : α) (l : List β) :
    (l.map fun p => (r p + (c * d p + k)) ^ 2).sum =
      (l.map fun p => r p ^ 2).sum + 2 * c * (l.map fun p => r p * d p).sum +
        2 * k * (l.map r).sum + (l.map fun p => (c * d p + k) ^ 2).sum := by
  induction l with
  | nil => simp
  | cons p l ih =>
    simp only [List.map_cons, List.sum_cons, ih]
    ring

variable [LinearOrder α] [IsStrictOrderedRing α]

theorem sum_map_sq_eq_zero_iff (f : β → α) (l : List β) :
    (l.map fun p => f p ^ 2).sum = 0 ↔ ∀ p ∈ l, f p = 0 := by
  have positive : ∀ z ∈ l.map fun p => f p ^ 2, 0 ≤ z := by
    intro z mem
    obtain ⟨p, -, rfl⟩ := List.mem_map.1 mem
    exact sq_nonneg _
  constructor
  · intro zero p mem
    have among : f p ^ 2 ∈ l.map fun p => f p ^ 2 := List.mem_map.2 ⟨p, mem, rfl⟩
    exact (pow_eq_zero_iff two_ne_zero).1
      (List.all_zero_of_le_zero_le_of_sum_eq_zero positive zero among)
  · intro zero
    refine List.sum_eq_zero fun z mem => ?_
    obtain ⟨p, among, rfl⟩ := List.mem_map.1 mem
    rw [zero p among, zero_pow two_ne_zero]

theorem sum_map_sq_nonneg (f : β → α) (l : List β) :
    0 ≤ (l.map fun p => f p ^ 2).sum := by
  refine List.sum_nonneg fun z mem => ?_
  obtain ⟨p, -, rfl⟩ := List.mem_map.1 mem
  exact sq_nonneg _

end

variable {α : Type} [Field α] [LinearOrder α] [FloorRing α] [Numerals α]

/-- The scalars of an ordered field. -/
scoped instance : Scalar α where
  ofInt? n := some n
  ofRatio? n d := some (n / d)
  decimal digits places := digits / 10 ^ places
  lt x y := decide (x < y)
  same x y := decide (x = y)
  sqrt := Numerals.sqrt
  floor x := ⌊x⌋
  round := Numerals.round
  toDatum := Numerals.toDatum
  shape := Numerals.shape

/-! ### Constants and sums -/

theorem ofNat_eq (n : Nat) : (Scalar.ofNat n : α) = n := by
  change (n : α) / 10 ^ 0 = n
  rw [pow_zero, div_one]

theorem zero_eq : (Scalar.zero : α) = 0 := (ofNat_eq 0).trans Nat.cast_zero

theorem one_eq : (Scalar.one : α) = 1 := (ofNat_eq 1).trans Nat.cast_one

theorem ofInt_eq (n : Int) : (Scalar.ofInt n : Except NumberError α) = .ok (n : α) := rfl

theorem ofCount_eq (n : Int) : (Scalar.ofCount n : α) = n := rfl

theorem indicator_eq (b : Bool) : (Scalar.indicator b : α) = if b then 1 else 0 := by
  rw [Scalar.indicator, zero_eq, one_eq]

theorem foldl_add (xs : List α) (start : α) : xs.foldl (· + ·) start = start + xs.sum := by
  induction xs generalizing start with
  | nil => exact (add_zero start).symm
  | cons x xs ih => rw [List.foldl_cons, ih, List.sum_cons, add_assoc]

theorem sum_eq (xs : List α) : Scalar.sum xs = xs.sum := by
  have folded : Scalar.sum xs = (Scalar.zero : α) + xs.sum := foldl_add xs _
  rw [folded, zero_eq, zero_add]

/-- What eight sums carry is added, in whatever order. -/
theorem carry_eq (s : Scalar.Lanes α) (xs : List α) : s.carry xs = s.total + xs.sum := by
  fun_induction Scalar.Lanes.carry s xs with
  | case1 s a b c d e f g h xs ih =>
    rw [ih]
    simp only [Scalar.Lanes.total, List.sum_cons]
    ring
  | case2 s xs => exact foldl_add xs s.total

theorem blockSum_eq (xs : List α) : Scalar.blockSum xs = xs.sum := by
  unfold Scalar.blockSum
  split
  · rw [carry_eq]
    simp only [Scalar.Lanes.total, List.sum_cons]
    ring
  · exact sum_eq _

theorem arraySum_eq (xs : List α) : Scalar.arraySum xs = xs.sum := by
  fun_induction Scalar.arraySum xs with
  | case1 xs => exact blockSum_eq xs
  | case2 xs long half first second =>
    rw [first, second, ← List.sum_append, List.take_append_drop]

/-! ### Means -/

/-- The mean of values; zero if there is none. -/
def average (xs : List α) : α := xs.sum / xs.length

theorem arrayMean_eq (xs : List α) : Sample.arrayMean xs = average xs := by
  unfold Sample.arrayMean average
  rw [arraySum_eq, ofNat_eq]

omit [Numerals α] in
theorem length_ne_zero {xs : List α} (filled : xs ≠ []) : (xs.length : α) ≠ 0 :=
  Nat.cast_ne_zero.2 (List.length_pos_iff.2 filled).ne'

/-- The differences from the mean add up to zero. -/
theorem sum_sub_average (xs : List α) : (xs.map (· - average xs)).sum = 0 := by
  by_cases empty : xs = []
  · subst empty
    rfl
  · rw [sum_sub, average, mul_div_cancel₀ _ (length_ne_zero empty), sub_self]

theorem average_of_alike {xs : List α} {x : α} (alike : ∀ y ∈ xs, y = x) (filled : xs ≠ []) :
    average xs = x := by
  rw [average, List.eq_replicate_of_mem alike, List.sum_replicate, List.length_replicate,
    nsmul_eq_mul, mul_div_cancel_left₀ _ (length_ne_zero filled)]

/-- A mean that is carried on is the mean of one value more. -/
theorem carryMean_average [IsStrictOrderedRing α] (xs : List α) (x : α) :
    carryMean (average xs) xs.length x = average (xs ++ [x]) := by
  have carried : carryMean (average xs) xs.length x =
      (average xs * ((xs.length : Int) : α) + x) / (((xs.length : Int) + 1 : Int) : α) := rfl
  rw [carried, average, average, List.sum_append, List.sum_singleton, List.length_append,
    List.length_singleton]
  push_cast
  by_cases none : (xs.length : α) = 0
  · have nil : xs = [] := by
      rw [← List.length_eq_zero_iff]
      exact_mod_cast none
    subst nil
    simp
  · rw [div_mul_cancel₀ _ none]

/-- The total of counts. -/
theorem total_counts (counts : List Int) :
    Sample.total (counts.map Sample.Amount.count) =
      (.ok (counts.sum : α) : Except NumberError α) := by
  rw [Sample.total_map_count, tally_eq]
  rfl

theorem toScalar_counts (counts : List Int) :
    (counts.map Sample.Amount.count).mapM Sample.Amount.toScalar =
      (.ok (counts.map fun n : Int => (n : α)) : Except NumberError (List α)) := by
  induction counts with
  | nil => rfl
  | cons n counts ih =>
    rw [List.map_cons, List.mapM_cons, ih]
    rfl

/-- A mean with counts as weights is the sum of products over the sum of counts; both are zero if
the counts add up to zero. -/
theorem countedMean_eq (values : List α) (counts : List Int)
    (same : values.length = counts.length) :
    Sample.countedMean values counts =
      .ok ((values.zipWith (fun (x : α) (n : Int) => x * n) counts).sum / (counts.sum : Int)) := by
  unfold Sample.countedMean Sample.weightedMean
  rw [total_counts, Sample.toScalar_scalars, toScalar_counts]
  by_cases none : ((counts.sum : Int) : α) = 0
  · have zero : Scalar.same ((counts.sum : Int) : α) Scalar.zero = true := by
      rw [zero_eq]
      exact decide_eq_true none
    change (if Scalar.same ((counts.sum : Int) : α) Scalar.zero = true then _ else _) = _
    rw [if_pos zero, none, div_zero, ← zero_eq (α := α)]
    rfl
  · have nonzero : ¬ Scalar.same ((counts.sum : Int) : α) Scalar.zero = true := by
      rw [zero_eq]
      simpa [Scalar.same] using none
    change (if Scalar.same ((counts.sum : Int) : α) Scalar.zero = true then _ else _) = _
    rw [if_neg nonzero]
    change (if values.length ≠ (counts.map fun n : Int => (n : α)).length then _ else _) = _
    rw [List.length_map, if_neg (not_not.2 same), List.zipWith_map_right, sum_eq]
    rfl

theorem countedMean_map {β : Type} (f : β → α) (g : β → Int) (xs : List β) :
    Sample.countedMean (xs.map f) (xs.map g) =
      .ok ((xs.map fun x => f x * (g x : α)).sum / ((xs.map g).sum : Int)) := by
  have same : (xs.map f).length = (xs.map g).length := by rw [List.length_map, List.length_map]
  rw [countedMean_eq _ _ same, List.zipWith_map, List.zipWith_self]

end Exact

end Promptuary
