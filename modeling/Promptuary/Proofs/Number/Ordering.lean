import Mathlib
import Promptuary.Number.Quantity
import Promptuary.Statistics.Scalar

/-!
The order of floats. What is not a number compares with nothing; all other floats are in order of
their places (`lt_iff_placeOf`). Sums and quotients are numbers as long as neither infinities nor
zeros meet. The order of places is that of the extended reals that the floats are worth, and
integers stand in it with their values (`Quantity.lt_iff_worth`).
-/

namespace Promptuary.Number

open Float.Model Float.Model.UnpackedFloat

/-! ### Places -/

/-- The place in the order of floats that the parts of a float give it: the side of zero, then
exponent and mantissa. -/
def place : UnpackedFloat → Int ×ₗ Int ×ₗ Int
  | .infinity .negative => toLex (-2, toLex (0, 0))
  | .finite .negative m e _ => toLex (-1, toLex (-e, -m))
  | .notANumber => toLex (0, toLex (0, 0))
  | .zero _ => toLex (0, toLex (0, 0))
  | .finite .positive m e _ => toLex (1, toLex (e, m))
  | .infinity .positive => toLex (2, toLex (0, 0))

theorem compare_neg_neg (m n : Int) : compare (-m) (-n) = (compare m n).swap := by
  rcases lt_trichotomy m n with less | rfl | greater
  · rw [compare_lt_iff_lt.2 less, compare_gt_iff_gt.2 (Int.neg_lt_neg less)]
    rfl
  · rw [compare_eq_iff_eq.2 rfl, compare_eq_iff_eq.2 rfl]
    rfl
  · rw [compare_gt_iff_gt.2 greater, compare_lt_iff_lt.2 (Int.neg_lt_neg greater)]
    rfl

theorem compare_ofNat (m n : Nat) : compare (m : Int) n = compare m n := by
  rw [Int.compare_eq_ite_lt, Nat.compare_eq_ite_lt]
  simp only [Int.ofNat_lt]

section

variable {u v : UnpackedFloat}

/-- Floats that are numbers are compared by their places. -/
theorem compare_eq_place (first : u.isNaN = false) (second : v.isNaN = false) :
    u.compare v = some (compare (place u) (place v)) := by
  cases u with
  | notANumber => cases first
  | infinity s =>
    cases v with
    | notANumber => cases second
    | infinity s' => cases s <;> cases s' <;> rfl
    | zero => cases s <;> rfl
    | finite s' => cases s <;> cases s' <;> rfl
  | zero =>
    cases v with
    | notANumber => cases second
    | infinity s => cases s <;> rfl
    | zero => rfl
    | finite s => cases s <;> rfl
  | finite s m e =>
    cases v with
    | notANumber => cases second
    | infinity s' => cases s <;> cases s' <;> rfl
    | zero => cases s <;> rfl
    | finite s' m' e' =>
      cases s with
      | negative =>
        cases s' with
        | negative =>
          have within : compare (place (.finite .negative m e ‹_›))
              (place (.finite .negative m' e' ‹_›)) =
                (compare (-e) (-e')).then (compare (-(m : Int)) (-m')) := rfl
          rw [within, compare_neg_neg, compare_neg_neg, compare_ofNat, ← Ordering.swap_then]
          rfl
        | positive => rfl
      | positive =>
        cases s' with
        | negative => rfl
        | positive =>
          have within : compare (place (.finite .positive m e ‹_›))
              (place (.finite .positive m' e' ‹_›)) =
                (compare e e').then (compare (m : Int) m') := rfl
          rw [within, compare_ofNat]
          rfl

/-- What is not a number is not greater than anything. -/
theorem isNaN_of_lt (less : u.lt v = true) : v.isNaN = false := by
  cases v with
  | notANumber => cases u <;> cases less
  | infinity => rfl
  | zero => rfl
  | finite => rfl

end

/-! ### Results that are numbers -/

section

variable {spec : Format} {u v : UnpackedFloat}

/-- A finite number that is not zero. -/
def isNonzero : UnpackedFloat → Bool
  | .finite .. => true
  | _ => false

theorem isNaN_roundWithAccuracy (s : Sign) (m : Nat) (e : Int) (a : Accuracy) :
    (roundWithAccuracy spec s m e a).isNaN = false := by
  unfold roundWithAccuracy
  dsimp only
  split <;> rfl

theorem isNaN_normalize (m e : Int) (s : Sign) :
    (UnpackedFloat.normalize spec m e s).isNaN = false := by
  unfold UnpackedFloat.normalize
  split
  · exact isNaN_roundWithAccuracy ..
  · rfl
  · exact isNaN_roundWithAccuracy ..

theorem isNaN_add (first : u.isFinite = true) (second : v.isNaN = false) :
    (UnpackedFloat.add spec u v).isNaN = false := by
  cases u with
  | notANumber => cases first
  | infinity => cases first
  | zero s =>
    cases v with
    | notANumber => cases second
    | infinity => rfl
    | zero s' => cases s <;> cases s' <;> rfl
    | finite => rfl
  | finite =>
    cases v with
    | notANumber => cases second
    | infinity => rfl
    | zero => rfl
    | finite => exact isNaN_normalize ..

theorem isNaN_div (first : u.isNaN = false) (second : isNonzero v = true) :
    (UnpackedFloat.div spec u v).isNaN = false := by
  cases v with
  | notANumber => cases second
  | infinity => cases second
  | zero => cases second
  | finite =>
    cases u with
    | notANumber => cases first
    | infinity => rfl
    | zero => rfl
    | finite => exact isNaN_roundWithAccuracy ..

theorem ofNat_ne_neg_one {width n : Nat} (small : n + 1 < 2 ^ width) :
    BitVec.ofNat width n ≠ -1#_ := by
  intro all
  have equal := congrArg BitVec.toNat all
  rw [BitVec.neg_one_eq_allOnes, BitVec.toNat_allOnes, BitVec.toNat_ofNat,
    Nat.mod_eq_of_lt (Nat.lt_of_succ_lt small)] at equal
  omega

/-- Bits that are not those of what is not a number. -/
theorem isNaN_unpack {b : BitVec spec.numBits}
    (number : unpackExponent b ≠ -1#_ ∨ unpackMantissa b = 0#_) :
    (UnpackedFloat.unpack spec b).isNaN = false := by
  unfold UnpackedFloat.unpack
  dsimp only
  split
  · next all =>
    rw [if_pos (number.resolve_left (not_not_intro all))]
    rfl
  · split
    · split <;> rfl
    · rfl

theorem isNaN_unpack_packComponents {s : Sign} {e : BitVec spec.exponentBits}
    {m : BitVec spec.mantissaBitsWithoutImplicit} (number : e ≠ -1#_ ∨ m = 0#_) :
    (UnpackedFloat.unpack spec (packComponents spec s e m)).isNaN = false :=
  isNaN_unpack (by rwa [unpackExponent_packComponents, unpackMantissa_packComponents])

theorem isNaN_unpack_pack (number : u.isNaN = false) :
    (UnpackedFloat.unpack spec (UnpackedFloat.pack spec u)).isNaN = false := by
  unfold UnpackedFloat.pack
  split
  · cases number
  · exact isNaN_unpack_packComponents (.inr rfl)
  · exact isNaN_unpack_packComponents (.inr rfl)
  · dsimp only
    split
    · exact isNaN_unpack_packComponents (.inr rfl)
    · next small =>
      split
      · exact isNaN_unpack_packComponents (.inl (ofNat_ne_neg_one (Nat.lt_of_not_le small)))
      · exact isNaN_unpack_packComponents (.inl (ofNat_ne_neg_one (Nat.one_lt_two_pow spec.he.ne')))

end

/-! ### Floats -/

section

variable {x y : Float}

/-- The place of a float in the order of floats. -/
def placeOf (x : Float) : Int ×ₗ Int ×ₗ Int := place x.toModel.unpack

theorem lt_iff_placeOf (first : x.isNaN = false) (second : y.isNaN = false) :
    x < y ↔ placeOf x < placeOf y := by
  have compared := compare_eq_place first second
  have less : x < y ↔ x.toModel.unpack.lt y.toModel.unpack = true := decide_eq_true_iff
  rw [less, UnpackedFloat.lt, compared, beq_iff_eq, Option.some.injEq]
  exact compare_lt_iff_lt

theorem le_iff_placeOf (first : x.isNaN = false) (second : y.isNaN = false) :
    x ≤ y ↔ placeOf x ≤ placeOf y := by
  have compared := compare_eq_place first second
  have atMost : x ≤ y ↔ x.toModel.unpack.le y.toModel.unpack = true := decide_eq_true_iff
  rw [atMost, UnpackedFloat.le, compared, Option.any_some, Ordering.isLE_iff_ne_gt]
  exact compare_le_iff_le

theorem isNaN_of_lt_float (less : x < y) : y.isNaN = false :=
  isNaN_of_lt (of_decide_eq_true less)

theorem isNaN_add_float (first : x.isFinite = true) (second : y.isNaN = false) :
    (x + y).isNaN = false :=
  isNaN_unpack_pack (isNaN_add first second)

theorem isNaN_div_float (first : x.isNaN = false) (second : isNonzero y.toModel.unpack = true) :
    (x / y).isNaN = false :=
  isNaN_unpack_pack (isNaN_div first second)

/-- The quotient of two counts is a finite float, where it is one at all. -/
theorem isFinite_floatOfRatio {n d : Nat} (ratio : floatOfRatio? n d = some x) :
    x.isFinite = true := by
  obtain ⟨finite, found⟩ := Option.ite_none_right_eq_some.1 ratio
  rw [if_neg (Int.not_lt.2 (Int.natCast_nonneg n)), Option.some.injEq] at found
  rw [← found]
  exact finite

end

/-! ### Parts of a float -/

/-- A mantissa and an exponent as the bits of a float give them: there are at most 53 binary digits,
and exactly so many unless the exponent is the least one. -/
structure Canonical (m : Nat) (e : Int) : Prop where
  fits : m < 2 ^ 53
  least : -1074 ≤ e
  full : 2 ^ 52 ≤ m ∨ e = -1074

/-- Parts whose mantissa and exponent are such as bits give, if they have any. -/
def IsCanonical : UnpackedFloat → Prop
  | .finite _ m e _ => Canonical m e
  | _ => True

theorem toNat_leadingOne {width : Nat} (v : BitVec width) :
    (1#1 ++ v).toNat = 2 ^ width + v.toNat := by
  rw [BitVec.toNat_append, ← Nat.shiftLeft_add_eq_or_of_lt v.isLt, Nat.shiftLeft_eq]
  simp

section

variable {b : BitVec Format.binary64.numBits}

theorem toNat_unpackMantissa : (unpackMantissa b).toNat = b.toNat % twoTo 52 := by
  simp [unpackMantissa, twoTo]

theorem toNat_unpackExponent : (unpackExponent b).toNat = b.toNat / twoTo 52 % twoTo 11 := by
  simp [unpackExponent, twoTo, Nat.shiftRight_eq_div_pow]

theorem toNat_unpackSign : (unpackSign b).toNat = b.toNat / twoTo 63 % 2 := by
  simp [unpackSign, twoTo, Nat.shiftRight_eq_div_pow]

/-- How far the exponent in the bits lies above that of a whole mantissa. -/
theorem bias_eq : (Format.binary64.exponentBias : Int) +
    (Format.binary64.mantissaBitsWithoutImplicit : Int) = 1075 := by decide

theorem isCanonical_unpack : IsCanonical (UnpackedFloat.unpack Format.binary64 b) := by
  have small : (unpackMantissa b).toNat < 2 ^ 52 := (unpackMantissa b).isLt
  unfold UnpackedFloat.unpack
  dsimp only
  split
  · split <;> trivial
  · split
    · next zero =>
      split
      · trivial
      · rw [zero]
        exact ⟨small.trans (by decide), by decide, .inr (by decide)⟩
    · next nonzero =>
      have positive : 0 < (unpackExponent b).toNat := by
        rw [Nat.pos_iff_ne_zero]
        intro zero
        exact nonzero (BitVec.eq_of_toNat_eq (by simpa using zero))
      refine ⟨BitVec.isLt _, ?_, .inl ?_⟩
      · rw [bias_eq]
        omega
      · rw [toNat_leadingOne]
        exact Nat.le_add_right _ _

end

theorem ofBitVec_negative (v : BitVec 1) :
    (Sign.ofBitVec v == Sign.negative) = decide (v.toNat = 1) := by
  revert v
  decide

/-- The exact content of parts. -/
def Binary.ofParts : UnpackedFloat → Binary
  | .notANumber => .nan
  | .infinity s => .infinite (s == .negative)
  | .zero s => .finite (s == .negative) 0 (-1074)
  | .finite s m e _ => .finite (s == .negative) m e

/-- The exact content of a float, read from its bits, is that of its parts. -/
theorem ofFloat_eq (x : Float) : Binary.ofFloat x = Binary.ofParts x.toModel.unpack := by
  let b : BitVec Format.binary64.numBits := x.toModel.toBits.toBitVec
  have bits : x.toBits.toNat = b.toNat := rfl
  have all : unpackExponent b = -1#_ ↔ (unpackExponent b).toNat = 2047 := BitVec.toNat_inj.symm
  have none : unpackExponent b = 0#_ ↔ (unpackExponent b).toNat = 0 := BitVec.toNat_inj.symm
  have blank : unpackMantissa b = 0#_ ↔ (unpackMantissa b).toNat = 0 := BitVec.toNat_inj.symm
  unfold Binary.ofFloat
  change _ = Binary.ofParts (UnpackedFloat.unpack Format.binary64 b)
  unfold UnpackedFloat.unpack
  dsimp only
  rw [bits, ← toNat_unpackMantissa, ← toNat_unpackExponent, ← toNat_unpackSign]
  by_cases high : (unpackExponent b).toNat = 2047
  · rw [if_pos high, if_pos (all.2 high)]
    by_cases zero : (unpackMantissa b).toNat = 0
    · rw [if_pos zero, if_pos (blank.2 zero), Binary.ofParts, ofBitVec_negative]
    · rw [if_neg zero, if_neg fun same => zero (blank.1 same)]
      rfl
  · rw [if_neg high, if_neg fun same => high (all.1 same)]
    by_cases low : (unpackExponent b).toNat = 0
    · rw [if_pos low, if_pos (none.2 low), low]
      by_cases zero : (unpackMantissa b).toNat = 0
      · rw [dif_pos (blank.2 zero), zero, Binary.ofParts, ofBitVec_negative]
      · rw [dif_neg fun same => zero (blank.1 same), Binary.ofParts, ofBitVec_negative]
        rfl
    · rw [if_neg low, if_neg fun same => low (none.1 same), Binary.ofParts, ofBitVec_negative,
        toNat_leadingOne, Nat.add_comm, bias_eq]
      rfl

/-! ### Sizes -/

/-- What a mantissa and an exponent stand for. -/
noncomputable def size (m : Nat) (e : Int) : ℝ := m * 2 ^ e

section

variable {m m' : Nat} {e e' : Int}

theorem size_nonneg (m : Nat) (e : Int) : 0 ≤ size m e :=
  mul_nonneg (Nat.cast_nonneg m) (zpow_nonneg zero_le_two e)

theorem size_pos (positive : 0 < m) : 0 < size m e :=
  mul_pos (Nat.cast_pos.2 positive) (zpow_pos two_pos e)

/-- A greater exponent outweighs a greater mantissa if there are digits enough. -/
theorem size_lt_of_lt (fits : m < 2 ^ 53) (full : 2 ^ 52 ≤ m') (less : e < e') :
    size m e < size m' e' :=
  calc size m e < 2 ^ (53 : ℤ) * 2 ^ e :=
        mul_lt_mul_of_pos_right (by exact_mod_cast fits) (zpow_pos two_pos e)
    _ = 2 ^ (52 : ℤ) * 2 ^ (e + 1) := by
        rw [← zpow_add₀ two_ne_zero, ← zpow_add₀ two_ne_zero]
        congr 1
        ring
    _ ≤ 2 ^ (52 : ℤ) * 2 ^ e' :=
        mul_le_mul_of_nonneg_left (zpow_le_zpow_right₀ one_le_two less) (by positivity)
    _ ≤ size m' e' :=
        mul_le_mul_of_nonneg_right (by exact_mod_cast full) (zpow_nonneg zero_le_two e')

theorem Canonical.size_lt (canonical : Canonical m e) (canonical' : Canonical m' e')
    (less : e < e' ∨ e = e' ∧ m < m') : size m e < size m' e' := by
  rcases less with lower | ⟨rfl, fewer⟩
  · refine size_lt_of_lt canonical.fits (canonical'.full.resolve_right ?_) lower
    have least := canonical.least
    omega
  · exact mul_lt_mul_of_pos_right (Nat.cast_lt.2 fewer) (zpow_pos two_pos e)

/-- Sizes are in the order of the exponents, and where these are the same, of the mantissas. -/
theorem Canonical.size_lt_iff (canonical : Canonical m e) (canonical' : Canonical m' e') :
    size m e < size m' e' ↔ e < e' ∨ e = e' ∧ m < m' := by
  refine ⟨fun less => Classical.byContradiction fun not => ?_, canonical.size_lt canonical'⟩
  have back : (e' < e ∨ e' = e ∧ m' < m) ∨ e = e' ∧ m = m' := by omega
  rcases back with greater | ⟨rfl, rfl⟩
  · exact less.asymm (canonical'.size_lt canonical greater)
  · exact lt_irrefl _ less

/-- A size as a quotient of natural numbers. -/
theorem size_eq_scaled (m : Nat) (e : Int) :
    size m e = ((scaled m e).1 : ℝ) / ((scaled m e).2 : ℝ) := by
  have power : (2 : ℝ) ^ e = 2 ^ e.toNat / 2 ^ (-e).toNat := by
    rw [← zpow_natCast, ← zpow_natCast, ← zpow_sub₀ two_ne_zero]
    congr 1
    omega
  have parts : scaled m e = (m * 2 ^ e.toNat, 2 ^ (-e).toNat) := rfl
  rw [size, power, parts]
  push_cast
  exact mul_div_assoc' _ _ _

end

/-! ### Worth -/

/-- What parts of a float are worth. What is not a number is given no weight. -/
noncomputable def worth : UnpackedFloat → EReal
  | .infinity .negative => ⊥
  | .finite .negative m e _ => ((-size m e : ℝ) : EReal)
  | .notANumber => 0
  | .zero _ => 0
  | .finite .positive m e _ => ((size m e : ℝ) : EReal)
  | .infinity .positive => ⊤

/-- Places of floats are in the order of what the floats are worth. -/
theorem place_lt_iff {u v : UnpackedFloat} (first : IsCanonical u) (second : IsCanonical v) :
    place u < place v ↔ worth u < worth v := by
  -- Only where both have a mantissa their order is not told by the kinds and signs alone.
  rcases u with ⟨_ | _⟩ | _ | _ | ⟨_ | _, m, e, h⟩ <;>
    rcases v with ⟨_ | _⟩ | _ | _ | ⟨_ | _, m', e', h'⟩ <;>
    simp [place, worth, Prod.Lex.toLex_lt_toLex, size_pos, size_nonneg,
      -EReal.coe_neg, EReal.coe_lt_coe_iff, *]
  case finite.negative.finite.negative =>
    rw [Canonical.size_lt_iff second first]
    omega
  case finite.negative.finite.positive =>
    exact (neg_neg_of_pos (size_pos h)).trans (size_pos h')
  case finite.positive.finite.negative =>
    exact (neg_nonpos.2 (size_nonneg m' e')).trans (size_nonneg m e)
  case finite.positive.finite.positive =>
    exact (Canonical.size_lt_iff first second).symm

/-! ### Floats and integers -/

/-- What a float is worth. -/
noncomputable def worthOf (x : Float) : EReal := worth x.toModel.unpack

theorem lt_iff_worthOf {x y : Float} (first : x.isNaN = false) (second : y.isNaN = false) :
    x < y ↔ worthOf x < worthOf y :=
  (lt_iff_placeOf first second).trans (place_lt_iff isCanonical_unpack isCanonical_unpack)

/-- What an integer is worth among the floats. -/
noncomputable def worthOfInt (n : Int) : EReal := ((n : ℝ) : EReal)

theorem compare_strictMono {α β : Type} [LinearOrder α] [LinearOrder β] {f : α → β}
    (increasing : StrictMono f) (x y : α) : compare (f x) (f y) = compare x y := by
  rw [← cmp_eq_compare, ← cmp_eq_compare, increasing.cmp_map_eq]

/-- An integer is compared with a finite float by the size and the sign of the float. -/
theorem compareInt_finite (n : Int) (negative : Bool) (m : Nat) (e : Int) :
    (Binary.finite negative m e).compareInt n =
      some (compare (worthOfInt n) ((if negative then -size m e else size m e : ℝ) : EReal)) := by
  have positive : (0 : ℝ) < (scaled m e).2 := Nat.cast_pos.2 (scaled_den_pos m e)
  have whole : (if negative then -size m e else size m e) * (scaled m e).2 =
      ((if negative then -((scaled m e).1 : Int) else (scaled m e).1 : Int) : ℝ) := by
    rw [size_eq_scaled]
    split
    · push_cast
      rw [neg_mul, div_mul_cancel₀ _ positive.ne']
    · rw [div_mul_cancel₀ _ positive.ne', Int.cast_natCast]
  have parts : (Binary.finite negative m e).compareInt n = some (compare (n * (scaled m e).2 : Int)
      (if negative then -((scaled m e).1 : Int) else (scaled m e).1)) := rfl
  rw [parts, worthOfInt, compare_strictMono EReal.coe_strictMono,
    ← compare_strictMono (strictMono_mul_right_of_pos positive), whole,
    ← Int.cast_natCast (R := ℝ), ← Int.cast_mul, compare_strictMono Int.cast_strictMono]

/-- An integer is compared with the parts of a float by what they are worth. -/
theorem compareInt_ofParts {u : UnpackedFloat} (number : u.isNaN = false) (n : Int) :
    (Binary.ofParts u).compareInt n = some (compare (worthOfInt n) (worth u)) := by
  cases u with
  | notANumber => cases number
  | infinity s =>
    cases s with
    | negative => exact congrArg some (compare_gt_iff_gt.2 (EReal.bot_lt_coe n)).symm
    | positive => exact congrArg some (compare_lt_iff_lt.2 (EReal.coe_lt_top n)).symm
  | zero s =>
    rw [Binary.ofParts, compareInt_finite]
    simp [size, worth]
  | finite s m e =>
    rw [Binary.ofParts, compareInt_finite]
    cases s <;> rfl

namespace Quantity

/-- What a quantity is worth. -/
noncomputable def worth : Quantity → EReal
  | .int n => worthOfInt n
  | .float x => worthOf x

/-- Quantities that are numbers are compared by what they are worth. -/
theorem lt_iff_worth {a b : Quantity} (first : a.isNaN = false) (second : b.isNaN = false) :
    a.lt b = true ↔ a.worth < b.worth := by
  rw [lt, beq_iff_eq]
  cases a with
  | int m =>
    cases b with
    | int n =>
      have compared : compare? (.int m) (.int n) = some (compare m n) := rfl
      rw [compared, Option.some.injEq, compare_lt_iff_lt]
      simp [worth, worthOfInt]
    | float y =>
      have compared : compare? (.int m) (.float y) = (Binary.ofFloat y).compareInt m := rfl
      rw [compared, ofFloat_eq, compareInt_ofParts second, Option.some.injEq, compare_lt_iff_lt]
      rfl
  | float x =>
    cases b with
    | int n =>
      have compared : compare? (.float x) (.int n) =
        ((Binary.ofFloat x).compareInt n).map Ordering.swap := rfl
      rw [compared, ofFloat_eq, compareInt_ofParts first, Option.map_some, Option.some.injEq,
        Ordering.swap_eq_lt, compare_gt_iff_gt]
      rfl
    | float y =>
      have compared : compare? (.float x) (.float y) = if x < y then some .lt
        else if y < x then some .gt else if x == y then some .eq else none := rfl
      rw [compared, worth, worth, ← lt_iff_worthOf first second]
      split_ifs <;> simp_all

end Quantity

end Promptuary.Number
