import Promptuary.Proofs.Statistics.Exact

/-!
Exact arithmetic with a guard. A quotient with a zero divisor has no value here, nor has the root of
a negative number, nor what is calculated with either. So a calculation that comes to the same
values with and without the guard has divided by zero nowhere.
-/

namespace Promptuary

/-- What comes of a calculation: a value, or none. -/
inductive Guarded (α : Type) where
  | value (x : α)
  | undefined

namespace Guarded

variable {α β : Type}

/-- Applies a function to a value. -/
def map (f : α → β) : Guarded α → Guarded β
  | value x => value (f x)
  | undefined => undefined

/-- Applies a function to two values. -/
def map₂ (f : α → α → β) : Guarded α → Guarded α → Guarded β
  | value x, value y => value (f x y)
  | _, _ => undefined

/-- Applies a test to two values; it fails if there are none. -/
def test (p : α → α → Bool) : Guarded α → Guarded α → Bool
  | value x, value y => p x y
  | _, _ => false

variable [Field α] [LinearOrder α] [FloorRing α] [Numerals α]

/-- The quotient of two values; none if the divisor is zero. -/
def divide : Guarded α → Guarded α → Guarded α
  | value x, value y => if y = 0 then undefined else value (x / y)
  | _, _ => undefined

/-- The root of a value; none if it is negative. -/
def root : Guarded α → Guarded α
  | value x => if x < 0 then undefined else value (Numerals.sqrt x)
  | undefined => undefined

open Exact in
instance : Scalar (Guarded α) where
  add := map₂ (· + ·)
  sub := map₂ (· - ·)
  mul := map₂ (· * ·)
  div := divide
  neg := map (- ·)
  ofInt? n := (Scalar.ofInt? n).map value
  ofRatio? n d := (Scalar.ofRatio? n d).map value
  decimal digits places := value (Scalar.decimal digits places)
  lt := test Scalar.lt
  same := test Scalar.same
  sqrt := root
  floor
    | value x => Scalar.floor x
    | undefined => 0
  round
    | value x => Scalar.round x
    | undefined => .error .roundUndefined
  toDatum
    | value x => Scalar.toDatum x
    | undefined => .null
  shape d := (Scalar.shape d).map value

open Exact

@[simp] theorem value_add (x y : α) : value x + value y = value (x + y) := rfl

@[simp] theorem value_sub (x y : α) : value x - value y = value (x - y) := rfl

@[simp] theorem value_mul (x y : α) : value x * value y = value (x * y) := rfl

@[simp] theorem ofNat_eq_value (n : Nat) :
    (Scalar.ofNat n : Guarded α) = value (Scalar.ofNat n) := rfl

@[simp] theorem zero_eq_value : (Scalar.zero : Guarded α) = value Scalar.zero := rfl

@[simp] theorem one_eq_value : (Scalar.one : Guarded α) = value Scalar.one := rfl

@[simp] theorem same_value (x y : α) : Scalar.same (value x) (value y) = Scalar.same x y := rfl

@[simp] theorem lt_value (x y : α) : Scalar.lt (value x) (value y) = Scalar.lt x y := rfl

@[simp] theorem square_value (x : α) :
    Sample.square (value x) = value (Sample.square x) := rfl

theorem div_value (x : α) {y : α} (nonzero : y ≠ 0) : value x / value y = value (x / y) :=
  if_neg nonzero

theorem sqrt_value {x : α} (positive : 0 ≤ x) :
    Scalar.sqrt (value x) = value (Scalar.sqrt x) := if_neg (not_lt.2 positive)

theorem foldl_value (xs : List α) (start : α) :
    (xs.map value).foldl (· + ·) (value start) = value (xs.foldl (· + ·) start) := by
  induction xs generalizing start with
  | nil => rfl
  | cons x xs ih => exact ih (start + x)

omit [Field α] [LinearOrder α] [FloorRing α] [Numerals α] in
/-- Fewer than eight values are still fewer than eight. -/
theorem not_eight_value {xs : List α}
    (few : ∀ a b c d e f g h rest, xs = a :: b :: c :: d :: e :: f :: g :: h :: rest → False)
    (a b c d e f g h : Guarded α) (rest : List (Guarded α))
    (same : xs.map value = a :: b :: c :: d :: e :: f :: g :: h :: rest) : False := by
  simp only [List.map_eq_cons_iff] at same
  obtain ⟨a, _, rfl, -, b, _, rfl, -, c, _, rfl, -, d, _, rfl, -, e, _, rfl, -, f, _, rfl, -, g, _,
    rfl, -, h, rest, rfl, -⟩ := same
  exact few a b c d e f g h rest rfl

theorem carry_value (s : Scalar.Lanes α) (xs : List α) :
    Scalar.Lanes.carry ⟨value s.a, value s.b, value s.c, value s.d, value s.e, value s.f, value s.g,
      value s.h⟩ (xs.map value) = value (s.carry xs) := by
  fun_induction Scalar.Lanes.carry s xs with
  | case1 s a b c d e f g h xs ih => exact ih
  | case2 s xs few =>
    rw [Scalar.Lanes.carry]
    · exact foldl_value xs s.total
    · exact not_eight_value few

theorem blockSum_value (xs : List α) :
    Scalar.blockSum (xs.map value) = value (Scalar.blockSum xs) := by
  fun_cases Scalar.blockSum xs with
  | case1 a b c d e f g h xs => exact carry_value ⟨a, b, c, d, e, f, g, h⟩ xs
  | case2 xs few =>
    rw [Scalar.blockSum]
    · exact foldl_value xs Scalar.zero
    · exact not_eight_value few

theorem arraySum_value (xs : List α) :
    Scalar.arraySum (xs.map value) = value (Scalar.arraySum xs) := by
  fun_induction Scalar.arraySum xs with
  | case1 xs short =>
    rw [Scalar.arraySum, if_pos (by rwa [List.length_map])]
    exact blockSum_value xs
  | case2 xs long half first second =>
    rw [Scalar.arraySum, if_neg (by rwa [List.length_map]), List.length_map]
    dsimp only
    rw [← List.map_take, ← List.map_drop, first, second]
    rfl

theorem arrayMean_value {xs : List α} (filled : xs ≠ []) :
    Sample.arrayMean (xs.map value) = value (Sample.arrayMean xs) := by
  unfold Sample.arrayMean
  rw [arraySum_value, List.length_map, ofNat_eq_value,
    div_value _ (by rw [ofNat_eq]; exact length_ne_zero filled)]

end Guarded

end Promptuary
