import Promptuary.Proofs.Number.Nearest
import Promptuary.Proofs.Statistics.Exact

/-!
Deviations of floats. Sums, products, quotients and roots of zeros are zeros, so values that are all
equal do not deviate if their mean comes out as what they all are. Rounding can make it come out as
something else.
-/

namespace Promptuary

open Float.Model Float.Model.UnpackedFloat Number

/-! ### Sums of arrays -/

namespace Scalar

variable {α : Type} [Scalar α] {P : α → Prop} {xs : List α}

section

variable (add : ∀ {x y}, P x → P y → P (x + y)) (all : ∀ x ∈ xs, P x)
include add all

theorem foldl_closed {start : α} (first : P start) : P (xs.foldl (· + ·) start) := by
  induction xs generalizing start with
  | nil => exact first
  | cons x xs ih =>
    obtain ⟨here, rest⟩ := List.forall_mem_cons.1 all
    exact ih rest (add first here)

theorem carry_closed {s : Lanes α} (left : P s.a ∧ P s.b ∧ P s.c ∧ P s.d)
    (right : P s.e ∧ P s.f ∧ P s.g ∧ P s.h) : P (s.carry xs) := by
  fun_induction Lanes.carry s xs with
  | case1 s a b c d e f g h xs ih =>
    simp only [List.forall_mem_cons] at all
    obtain ⟨a, b, c, d, e, f, g, h, rest⟩ := all
    exact ih rest ⟨add left.1 a, add left.2.1 b, add left.2.2.1 c, add left.2.2.2 d⟩
      ⟨add right.1 e, add right.2.1 f, add right.2.2.1 g, add right.2.2.2 h⟩
  | case2 s xs =>
    refine foldl_closed add all (add (add (add ?_ ?_) (add ?_ ?_)) (add (add ?_ ?_) (add ?_ ?_)))
    · exact left.1
    · exact left.2.1
    · exact left.2.2.1
    · exact left.2.2.2
    · exact right.1
    · exact right.2.1
    · exact right.2.2.1
    · exact right.2.2.2

/-- The sum of an array has what zero and its scalars have, if sums of two have it. -/
theorem arraySum_closed (none : P zero) : P (arraySum xs) := by
  fun_induction arraySum xs with
  | case1 xs =>
    fun_cases blockSum xs with
    | case1 a b c d e f g h xs =>
      simp only [List.forall_mem_cons] at all
      obtain ⟨a, b, c, d, e, f, g, h, rest⟩ := all
      exact carry_closed add rest ⟨a, b, c, d⟩ ⟨e, f, g, h⟩
    | case2 xs => exact foldl_closed add all none
  | case2 xs long half first second =>
    exact add (first fun x mem => all x (List.mem_of_mem_take mem))
      (second fun x mem => all x (List.mem_of_mem_drop mem))

end

end Scalar

/-! ### Zeros -/

section

variable {x y z : Float}

/-- Zero, with either sign. -/
def IsZero (x : Float) : Prop := ∃ s, x.toModel.unpack = .zero s

theorem unpack_add (x y : Float) :
    (x + y).toModel.unpack = UnpackedFloat.unpack .binary64 (UnpackedFloat.pack .binary64
      (UnpackedFloat.add .binary64 x.toModel.unpack y.toModel.unpack)) := rfl

theorem unpack_sqrt (x : Float) :
    x.sqrt.toModel.unpack = UnpackedFloat.unpack .binary64 (UnpackedFloat.pack .binary64
      (UnpackedFloat.sqrt .binary64 x.toModel.unpack)) := rfl

theorem isZero_sub_self (finite : x.isFinite = true) : IsZero (x - x) := by
  rw [isFinite_eq] at finite
  rw [IsZero, unpack_sub]
  generalize x.toModel.unpack = u at *
  rcases u with s | _ | s | ⟨s, m, e, positive⟩
  · cases finite
  · cases finite
  · cases s <;> exact ⟨_, rfl⟩
  · have none : UnpackedFloat.sub .binary64 (.finite s m e positive) (.finite s m e positive) =
        .zero .positive := by
      simp only [UnpackedFloat.sub, Int.sub_self, UnpackedFloat.normalize]
      rfl
    rw [none]
    exact ⟨_, unpack_packedZero _⟩

theorem IsZero.add (first : IsZero x) (second : IsZero y) : IsZero (x + y) := by
  obtain ⟨s, first⟩ := first
  obtain ⟨s', second⟩ := second
  rw [IsZero, unpack_add, first, second]
  cases s <;> cases s' <;> exact ⟨_, rfl⟩

theorem IsZero.mul (first : IsZero x) (second : IsZero y) : IsZero (x * y) := by
  obtain ⟨s, first⟩ := first
  obtain ⟨s', second⟩ := second
  rw [IsZero, unpack_mul, first, second]
  exact ⟨_, unpack_packedZero _⟩

theorem IsZero.sqrt (zero : IsZero x) : IsZero x.sqrt := by
  obtain ⟨s, zero⟩ := zero
  rw [IsZero, unpack_sqrt, zero]
  exact ⟨_, unpack_packedZero _⟩

/-- A finite quotient has a divisor that is neither zero nor undefined. -/
theorem IsZero.div (zero : IsZero z) (finite : (x / y).isFinite = true) : IsZero (z / y) := by
  obtain ⟨s, zero⟩ := zero
  rw [isFinite_eq, unpack_div] at finite
  rw [IsZero, unpack_div, zero]
  generalize y.toModel.unpack = v at *
  generalize x.toModel.unpack = u at *
  rcases v with _ | _ | s' | _
  · exact ⟨_, unpack_packedZero _⟩
  · have undefined : UnpackedFloat.div .binary64 u .notANumber = .notANumber := by
      cases u <;> rfl
    rw [undefined] at finite
    exact absurd finite (by decide)
  · have beyond : UnpackedFloat.div .binary64 u (.zero s') = .notANumber ∨
        ∃ s, UnpackedFloat.div .binary64 u (.zero s') = .infinity s := by
      rcases u with s | _ | s | ⟨s, _⟩
      · exact .inr ⟨_, rfl⟩
      · exact .inl rfl
      · exact .inl rfl
      · exact .inr ⟨_, rfl⟩
    rcases beyond with undefined | ⟨s, infinite⟩
    · rw [undefined] at finite
      exact absurd finite (by decide)
    · rw [infinite] at finite
      cases s <;> exact absurd finite (by decide)
  · exact ⟨_, unpack_packedZero _⟩

theorem IsZero.same_zero (zero : IsZero x) : Scalar.same x Scalar.zero = true := by
  obtain ⟨s, zero⟩ := zero
  have parts : Scalar.same x Scalar.zero =
      x.toModel.unpack.beq (Scalar.zero : Float).toModel.unpack := rfl
  rw [parts, zero]
  cases s <;> rfl

end

/-! ### Deviations -/

/-- Finite values that are all equal do not deviate if their mean comes out as what they are. -/
theorem same_deviation_zero {xs : List Float} {x : Float} (finite : x.isFinite = true)
    (alike : ∀ y ∈ xs, y = x) (centred : (Sample.describe xs).mean = x) :
    Scalar.same (Sample.describe xs).deviation Scalar.zero = true := by
  unfold Sample.describe at centred ⊢
  split
  · rfl
  · next filled =>
    rw [if_neg filled] at centred
    dsimp only at centred ⊢
    rw [centred]
    have zeros : ∀ z ∈ xs.map fun y => Sample.square (y - x), IsZero z := by
      intro z mem
      obtain ⟨y, among, rfl⟩ := List.mem_map.1 mem
      rw [alike y among]
      exact (isZero_sub_self finite).mul (isZero_sub_self finite)
    have sum : IsZero (Scalar.arraySum (xs.map fun y => Sample.square (y - x))) :=
      Scalar.arraySum_closed IsZero.add zeros ⟨.positive, rfl⟩
    have mean : IsZero (Sample.arrayMean (xs.map fun y => Sample.square (y - x))) := by
      rw [Sample.arrayMean, List.length_map]
      refine sum.div (x := Scalar.arraySum xs) ?_
      rw [← centred] at finite
      exact finite
    exact mean.sqrt.same_zero

end Promptuary
