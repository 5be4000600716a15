import Promptuary.Proofs.Number.Ordering

/-!
Rounding to floats. What is not less than the least float is not rounded to zero: the leading digit
stays where it is or moves up (`reaches_roundWithAccuracy`). That bounds differences, quotients and
products from below, such that their signs are not lost.
-/

namespace Promptuary.Number

open Float.Model Float.Model.UnpackedFloat

section

variable {m m' : Nat} {e e' k : Int} {s : Sign} {a : Accuracy}

/-! ### Leading digits -/

/-- Where the leading digit lies above a place, the mantissa reaches that place. -/
theorem lt_totalExponent_iff (positive : 0 < m) :
    k < totalExponent m e ↔ 2 ^ (k - e).toNat ≤ m := by
  rw [← Nat.le_log2 positive.ne', totalExponent]
  omega

theorem lt_totalExponent : e < totalExponent m e := by
  rw [totalExponent]
  omega

theorem Canonical.totalExponent_le (canonical : Canonical m e) (positive : 0 < m) :
    totalExponent m e ≤ e + 53 := by
  have fits := (Nat.log2_lt positive.ne').2 canonical.fits
  rw [totalExponent]
  omega

theorem totalExponent_mono (positive : 0 < m) (more : m ≤ m') :
    totalExponent m e ≤ totalExponent m' e := by
  have log : m.log2 ≤ m'.log2 :=
    (Nat.le_log2 (positive.trans_le more).ne').2 ((Nat.log2_self_le positive.ne').trans more)
  rw [totalExponent, totalExponent]
  omega

theorem targetExponent_eq (k : Int) :
    Format.binary64.targetExponent k = max (k - 53) (-1074) := by
  have least : Format.binary64.minExponent = -1074 := by decide
  rw [Format.targetExponent, least]
  rfl

/-! ### Shifts -/

theorem mantissa_shiftRight (x : ExtendedMantissa) (n : Nat) :
    (x >>> n).mantissa = x.mantissa / 2 ^ n := by
  induction n with
  | zero => exact (Nat.div_one _).symm
  | succ n ih =>
    have again : x >>> (n + 1) = (x >>> n).shiftRightOne := rfl
    rw [again, ExtendedMantissa.shiftRightOne, ih, Nat.div_div_eq_div_mul, ← Nat.pow_succ]

theorem mantissa_ofMantissaAndAccuracy :
    (ExtendedMantissa.ofMantissaAndAccuracy m a).mantissa = m := by
  rcases a with _ | _ | _ | _ <;> rfl

/-- Mantissas are not rounded down below their whole digits. -/
theorem le_roundedMantissa (x : ExtendedMantissa) : x.mantissa ≤ x.roundedMantissa := by
  rcases x with ⟨m, _ | _, _ | _⟩
  · exact le_rfl
  · exact le_rfl
  · exact Nat.le_add_right _ _
  · exact Nat.le_succ _

theorem log2_div_pow {n : Nat} (positive : 0 < m) (few : n ≤ m.log2) :
    (m / 2 ^ n).log2 = m.log2 - n := by
  have least : 2 ^ (m.log2 - n) ≤ m / 2 ^ n := by
    rw [Nat.le_div_iff_mul_le (Nat.two_pow_pos n), ← Nat.pow_add, Nat.sub_add_cancel few]
    exact Nat.log2_self_le positive.ne'
  have most : m / 2 ^ n < 2 ^ (m.log2 - n + 1) := by
    rw [Nat.div_lt_iff_lt_mul (Nat.two_pow_pos n), ← Nat.pow_add]
    exact Nat.lt_log2_self.trans_eq (by congr 1; omega)
  exact (Nat.log2_eq_iff ((Nat.two_pow_pos _).trans_le least).ne').2 ⟨least, most⟩

theorem log2_mul_pow {n : Nat} (positive : 0 < m) : (m * 2 ^ n).log2 = m.log2 + n := by
  have grown : 0 < m * 2 ^ n := Nat.mul_pos positive (Nat.two_pow_pos n)
  rw [Nat.log2_eq_iff grown.ne', Nat.add_right_comm, Nat.pow_add, Nat.pow_add _ _ n]
  exact ⟨Nat.mul_le_mul_right _ (Nat.log2_self_le positive.ne'),
    Nat.mul_lt_mul_of_pos_right Nat.lt_log2_self (Nat.two_pow_pos n)⟩

/-- What is shifted to its place among the floats keeps its leading digit. -/
theorem shiftToTargetExponent_spec (positive : 0 < m) (large : -1074 < totalExponent m e)
    (enough : e ≤ max (totalExponent m e - 53) (-1074)) :
    ∃ x e', shiftToTargetExponent .binary64 m e a = (x, e') ∧ 0 < x.mantissa ∧
      Canonical x.mantissa e' ∧ totalExponent x.mantissa e' = totalExponent m e ∧
      e' = max (totalExponent m e - 53) (-1074) := by
  have lead : totalExponent m e = m.log2 + 1 + e := rfl
  generalize amount : (max (totalExponent m e - 53) (-1074) - e).toNat = n
  have place : e + n = max (totalExponent m e - 53) (-1074) := by omega
  have few : n ≤ m.log2 := by omega
  have log := log2_div_pow positive few
  have least : 0 < m / 2 ^ n :=
    Nat.div_pos (((Nat.le_log2 positive.ne').1 few)) (Nat.two_pow_pos n)
  have shifted : shiftToTargetExponent .binary64 m e a =
      (ExtendedMantissa.ofMantissaAndAccuracy m a >>> n, e + n) := by
    rw [← amount, ← targetExponent_eq]
    rfl
  refine ⟨_, _, shifted, ?_⟩
  rw [mantissa_shiftRight, mantissa_ofMantissaAndAccuracy]
  refine ⟨least, ⟨?_, by omega, ?_⟩, ?_, place⟩
  · rw [← Nat.log2_lt least.ne', log]
    omega
  · rw [← Nat.le_log2 least.ne', log]
    omega
  · rw [totalExponent, log]
    omega

/-! ### Rounding -/

/-- On one side of zero, infinite or with a leading digit not below a place. -/
inductive Reaches (k : Int) (s : Sign) : UnpackedFloat → Prop
  | infinity : Reaches k s (.infinity s)
  | finite {m : Nat} {e : Int} (positive : 0 < m) (canonical : Canonical m e)
      (lead : k ≤ totalExponent m e) : Reaches k s (.finite s m e positive)

theorem Reaches.mono {u : UnpackedFloat} (reaches : Reaches k s u) {k' : Int} (lower : k' ≤ k) :
    Reaches k' s u := by
  cases reaches with
  | infinity => exact .infinity
  | finite positive canonical lead => exact .finite positive canonical (lower.trans lead)

/-- What is not less than the least float does not lose its leading digit when it is rounded. -/
theorem reaches_roundWithAccuracy (positive : 0 < m) (large : -1074 < totalExponent m e)
    (enough : e ≤ max (totalExponent m e - 53) (-1074)) :
    Reaches (totalExponent m e) s (roundWithAccuracy .binary64 s m e a) := by
  obtain ⟨x, e₁, first, some₁, -, lead₁, place₁⟩ := shiftToTargetExponent_spec (a := a) positive
    large enough
  -- Rounding moves the leading digit up if at all, so the second shift has enough digits as well.
  have up := totalExponent_mono (e := e₁) some₁ (le_roundedMantissa x)
  rw [lead₁] at up
  obtain ⟨y, e₂, second, some₂, canonical, lead₂, -⟩ :=
    shiftToTargetExponent_spec (m := x.roundedMantissa) (e := e₁) (a := .exact)
      (some₁.trans_le (le_roundedMantissa x)) (by omega) (by omega)
  unfold roundWithAccuracy
  rw [first]
  dsimp only
  rw [second]
  dsimp only
  rw [dif_neg some₂.ne']
  exact .finite some₂ canonical (up.trans_eq lead₂.symm)

theorem reaches_round (positive : 0 < m) (large : -1074 < totalExponent m e) :
    Reaches (totalExponent m e) s (UnpackedFloat.round .binary64 s m e) := by
  generalize amount : (e - max (totalExponent m e - 53) (-1074)).toNat = n
  have rounded : UnpackedFloat.round .binary64 s m e =
      roundWithAccuracy .binary64 s (m <<< n) (e - n) .exact := by
    rw [← amount, ← targetExponent_eq]
    rfl
  have some' : 0 < m <<< n := by
    rw [Nat.shiftLeft_eq]
    exact Nat.mul_pos positive (Nat.two_pow_pos n)
  have same : totalExponent (m <<< n) (e - n) = totalExponent m e := by
    have log : (m <<< n).log2 = m.log2 + n := by
      rw [Nat.shiftLeft_eq, log2_mul_pow positive]
    rw [totalExponent, totalExponent, log]
    omega
  rw [rounded, ← same]
  exact reaches_roundWithAccuracy some' (by omega) (by omega)

/-! ### Bits -/

theorem unpackSign_packComponents {spec : Format} {x : BitVec spec.exponentBits}
    {v : BitVec spec.mantissaBitsWithoutImplicit} :
    unpackSign (packComponents spec s x v) = s.toBitVec := by
  apply BitVec.eq_of_getLsbD_eq
  intro i low
  obtain rfl : i = 0 := by omega
  simp [unpackSign, packComponents, BitVec.getLsbD_append, BitVec.getElem_append]

theorem ofBitVec_toBitVec : Sign.ofBitVec s.toBitVec = s := by
  cases s <;> rfl

/-- An infinity is read back from its bits. -/
theorem unpack_packedInfinity :
    UnpackedFloat.unpack .binary64 (packedInfinity .binary64 s) = .infinity s := by
  unfold UnpackedFloat.unpack packedInfinity
  simp only [unpackMantissa_packComponents, unpackExponent_packComponents,
    unpackSign_packComponents, ofBitVec_toBitVec, if_true]
  rfl

theorem unpack_normal {x : BitVec Format.binary64.exponentBits}
    {v : BitVec Format.binary64.mantissaBitsWithoutImplicit} (below : x ≠ -1#_) (above : x ≠ 0#_)
    (positive : 0 < (1#1 ++ v).toNat) :
    UnpackedFloat.unpack .binary64 (packComponents .binary64 s x v) =
      .finite s (1#1 ++ v).toNat (x.toNat - 1075) positive := by
  unfold UnpackedFloat.unpack
  simp only [unpackMantissa_packComponents, unpackExponent_packComponents,
    unpackSign_packComponents, ofBitVec_toBitVec, if_neg below, if_neg above]
  rfl

theorem unpack_subnormal {v : BitVec Format.binary64.mantissaBitsWithoutImplicit}
    (positive : 0 < v.toNat) :
    UnpackedFloat.unpack .binary64 (packComponents .binary64 s 0#_ v) =
      .finite s v.toNat (-1074) positive := by
  have some' : v ≠ 0#_ := fun none => positive.ne' (congrArg BitVec.toNat none)
  have below : (0#11 : BitVec 11) ≠ -1#_ := by decide
  unfold UnpackedFloat.unpack
  simp only [unpackMantissa_packComponents, unpackExponent_packComponents,
    unpackSign_packComponents, ofBitVec_toBitVec, if_neg below, if_true, dif_neg some']
  rfl

theorem finite_congr {positive : 0 < m} {positive' : 0 < m'} (mantissas : m = m')
    (exponents : e = e') :
    UnpackedFloat.finite s m e positive = .finite s m' e' positive' := by
  subst mantissas exponents
  rfl

/-- A finite float is read back from its bits, or as an infinity if it is too large. -/
theorem unpack_pack_finite (positive : 0 < m) (canonical : Canonical m e) :
    UnpackedFloat.unpack .binary64 (UnpackedFloat.pack .binary64 (.finite s m e positive)) =
      if e ≤ 971 then .finite s m e positive else .infinity s := by
  have least := canonical.least
  have fits := canonical.fits
  have biased : (e + Format.binary64.exponentBias +
      Format.binary64.mantissaBitsWithoutImplicit).toNat = (e + 1075).toNat := by
    rw [Int.add_assoc, bias_eq]
  have precision : Format.binary64.mantissaBits = 53 := rfl
  have powers : 2 ^ Format.binary64.exponentBits = 2048 := rfl
  unfold UnpackedFloat.pack
  dsimp only
  rw [biased, precision, powers]
  by_cases small : e ≤ 971
  · rw [if_neg (by omega), if_pos small]
    split
    · next normal =>
      have full : 2 ^ 52 ≤ m := (Nat.le_log2 positive.ne').1 (by omega)
      have exponent : (BitVec.ofNat 11 (e + 1075).toNat).toNat = (e + 1075).toNat := by
        rw [BitVec.toNat_ofNat, Nat.mod_eq_of_lt (by omega)]
      have mantissa : (1#1 ++ BitVec.ofNat 52 m).toNat = m := by
        rw [toNat_leadingOne, BitVec.toNat_ofNat]
        omega
      have above : BitVec.ofNat 11 (e + 1075).toNat ≠ 0#11 := by
        intro zero
        have none : (BitVec.ofNat 11 (e + 1075).toNat).toNat = 0 := congrArg BitVec.toNat zero
        omega
      refine (unpack_normal (ofNat_ne_neg_one (by omega)) above (by omega)).trans ?_
      have placed : ((BitVec.ofNat 11 (e + 1075).toNat).toNat : Int) - 1075 = e := by omega
      exact finite_congr mantissa placed
    · next subnormal =>
      have digits := (Nat.log2_lt positive.ne').2 fits
      have few : m < 2 ^ 52 := (Nat.log2_lt positive.ne').1 (by omega)
      have mantissa : (BitVec.ofNat 52 m).toNat = m := by
        rw [BitVec.toNat_ofNat, Nat.mod_eq_of_lt few]
      have lowest : e = -1074 := canonical.full.resolve_left (by omega)
      exact (unpack_subnormal (by omega)).trans (finite_congr mantissa lowest.symm)
  · rw [if_pos (by omega), if_neg small]
    exact unpack_packedInfinity

theorem Reaches.unpack_pack {u : UnpackedFloat} (reaches : Reaches k s u) :
    Reaches k s (UnpackedFloat.unpack .binary64 (UnpackedFloat.pack .binary64 u)) := by
  cases reaches with
  | infinity =>
    have kept := unpack_packedInfinity (s := s)
    exact kept.symm ▸ .infinity
  | finite positive canonical lead =>
    rw [unpack_pack_finite positive canonical]
    split
    · exact .finite positive canonical lead
    · exact .infinity

/-! ### Differences -/

/-- Brought to the smaller exponent, mantissas are in the order of the sizes and far enough
apart. -/
theorem aligned_lt (canonical : Canonical m e) (canonical' : Canonical m' e')
    (less : e < e' ∨ e = e' ∧ m < m') :
    m + 2 ^ (e' - 1 - e).toNat ≤ m' <<< (e' - e).toNat := by
  have fits := canonical.fits
  rcases less with lower | ⟨rfl, fewer⟩
  -- A greater exponent is not the least one, so its mantissa has all 53 digits.
  · have least := canonical.least
    have full := canonical'.full.resolve_right (by omega)
    generalize gap : (e' - 1 - e).toNat = n
    have steps : (e' - e).toNat = n + 1 := by omega
    have some' : 0 < 2 ^ n := Nat.two_pow_pos n
    rw [steps, Nat.shiftLeft_eq, Nat.pow_succ]
    nlinarith
  · simpa using fewer

theorem sub_of_le {positive : 0 < m} {positive' : 0 < m'} (lower : e ≤ e') :
    UnpackedFloat.sub .binary64 (.finite .positive m' e' positive')
        (.finite .positive m e positive) =
      UnpackedFloat.normalize .binary64 ((m' <<< (e' - e).toNat : Nat) - m) e .positive ∧
    UnpackedFloat.sub .binary64 (.finite .positive m e positive)
        (.finite .positive m' e' positive') =
      UnpackedFloat.normalize .binary64 (m - (m' <<< (e' - e).toNat : Nat)) e .positive := by
  simp [UnpackedFloat.sub, decreaseExponent, Sign.apply, lower]

theorem reaches_normalize (positive : 0 < m) (large : -1074 < totalExponent m e) :
    Reaches (totalExponent m e) .positive (UnpackedFloat.normalize .binary64 m e s) ∧
      Reaches (totalExponent m e) .negative (UnpackedFloat.normalize .binary64 (-m) e s) := by
  have above : (0 : Int) < m := Int.natCast_pos.2 positive
  constructor
  · unfold UnpackedFloat.normalize
    rw [compare_gt_iff_gt.2 above]
    exact reaches_round positive large
  · unfold UnpackedFloat.normalize
    rw [compare_lt_iff_lt.2 (Int.neg_neg_of_pos above)]
    dsimp only
    rw [Int.neg_neg, Int.toNat_natCast]
    exact reaches_round positive large

/-- The difference of two finite floats reaches the last digit of the greater one. -/
theorem reaches_sub_of_lt {positive : 0 < m} {positive' : 0 < m'} (canonical : Canonical m e)
    (canonical' : Canonical m' e') (less : e < e' ∨ e = e' ∧ m < m') :
    Reaches e' .positive (UnpackedFloat.sub .binary64 (.finite .positive m' e' positive')
      (.finite .positive m e positive)) ∧
    Reaches e' .negative (UnpackedFloat.sub .binary64 (.finite .positive m e positive)
      (.finite .positive m' e' positive')) := by
  have apart := aligned_lt canonical canonical' less
  have least := canonical.least
  have lower : e ≤ e' := by omega
  rw [(sub_of_le lower).1, (sub_of_le lower).2]
  generalize m' <<< (e' - e).toNat = n at apart
  have power : 0 < 2 ^ (e' - 1 - e).toNat := Nat.two_pow_pos _
  have some' : 0 < n - m := by omega
  have lead : e' - 1 < totalExponent (n - m) e := (lt_totalExponent_iff some').2 (by omega)
  have large : e < totalExponent (n - m) e := lt_totalExponent
  obtain ⟨above, below⟩ := reaches_normalize (e := e) (s := .positive) some' (by omega)
  have forth : (n : Int) - m = (n - m : Nat) := by omega
  have back : (m : Int) - n = -(n - m : Nat) := by omega
  rw [forth, back]
  exact ⟨above.mono (by omega), below.mono (by omega)⟩

/-! ### Quotients and products -/

/-- The whole digits of a quotient are enough for rounding. -/
theorem divCore_spec (positive : 0 < m) (positive' : 0 < m')
    (large : -1074 < totalExponent m e - totalExponent m' e') :
    ∃ q p a, divCore .binary64 m e m' e' = (q, p, a) ∧ 0 < q ∧
      totalExponent m e - totalExponent m' e' ≤ totalExponent q p ∧
      p ≤ max (totalExponent m e - totalExponent m' e' - 53) (-1074) := by
  have lead : totalExponent m e = m.log2 + 1 + e := rfl
  have lead' : totalExponent m' e' = m'.log2 + 1 + e' := rfl
  generalize lowest : max (totalExponent m e - totalExponent m' e' - 53) (-1074) = b
  generalize least : min (e - e') b = p
  generalize amount : (e - e' - p).toNat = n
  generalize height : (totalExponent m e - totalExponent m' e' - 1 - p).toNat = h
  have divided : divCore .binary64 m e m' e' =
      (m <<< n / m', p, accuracyOfFraction (m <<< n % m') m') := by
    rw [← amount, ← least, ← lowest, ← targetExponent_eq]
    rfl
  -- The shift is chosen such that the quotient has its leading digit just below that place.
  have reached : 2 ^ h ≤ m <<< n / m' := by
    rw [Nat.le_div_iff_mul_le positive', Nat.shiftLeft_eq]
    calc 2 ^ h * m' ≤ 2 ^ h * 2 ^ (m'.log2 + 1) :=
          Nat.mul_le_mul_left _ Nat.lt_log2_self.le
      _ = 2 ^ m.log2 * 2 ^ n := by
          rw [← Nat.pow_add, ← Nat.pow_add]
          congr 1
          omega
      _ ≤ m * 2 ^ n := Nat.mul_le_mul_right _ (Nat.log2_self_le positive.ne')
  have some' : 0 < m <<< n / m' := (Nat.two_pow_pos h).trans_le reached
  have up := (lt_totalExponent_iff (e := p) some').2 (height.symm ▸ reached)
  exact ⟨_, _, _, divided, some', by omega, by omega⟩

theorem sign_div_positive (s : Sign) : s / .positive = s := by
  cases s <;> rfl

theorem sign_mul_positive (s : Sign) : s * .positive = s := by
  cases s <;> rfl

/-- A quotient reaches a place known beforehand if the dividend reaches the last digit of the
divisor. -/
theorem Reaches.div {u : UnpackedFloat} (reaches : Reaches e s u) (positive : 0 < m)
    (canonical : Canonical m e) :
    Reaches (-53) s (UnpackedFloat.div .binary64 u (.finite .positive m e positive)) := by
  have below := canonical.totalExponent_le positive
  cases reaches with
  | infinity =>
    have kept : UnpackedFloat.div .binary64 (.infinity s) (.finite .positive m e positive) =
      .infinity (s / .positive) := rfl
    rw [kept, sign_div_positive]
    exact .infinity
  | @finite m₁ e₁ positive₁ _ lead =>
    have large : -1074 < totalExponent m₁ e₁ - totalExponent m e := by omega
    obtain ⟨q, p, a, divided, some', up, lower⟩ := divCore_spec positive₁ positive large
    have rounded : UnpackedFloat.div .binary64 (.finite s m₁ e₁ positive₁)
        (.finite .positive m e positive) =
          let (q, p, a) := divCore .binary64 m₁ e₁ m e
          roundWithAccuracy .binary64 (s / .positive) q p a := rfl
    rw [rounded, divided, sign_div_positive]
    exact (reaches_roundWithAccuracy some' (by omega) (by omega)).mono (by omega)

theorem le_log2_mul (positive : 0 < m) (positive' : 0 < m') :
    m.log2 + m'.log2 ≤ (m * m').log2 := by
  rw [Nat.le_log2 (Nat.mul_pos positive positive').ne', Nat.pow_add]
  exact Nat.mul_le_mul (Nat.log2_self_le positive.ne') (Nat.log2_self_le positive'.ne')

/-- A product with a number that has all its digits. -/
theorem Reaches.mul {u : UnpackedFloat} (reaches : Reaches k s u) (positive : 0 < m)
    (full : 2 ^ 52 ≤ m) (large : -1074 < k + e + 52) :
    Reaches (k + e + 52) s (UnpackedFloat.mul .binary64 u (.finite .positive m e positive)) := by
  cases reaches with
  | infinity =>
    have kept : UnpackedFloat.mul .binary64 (.infinity s) (.finite .positive m e positive) =
      .infinity (s * .positive) := rfl
    rw [kept, sign_mul_positive]
    exact .infinity
  | @finite m₁ e₁ positive₁ _ lead =>
    have digits := (Nat.le_log2 positive.ne').2 full
    have sum := le_log2_mul positive₁ positive
    have rounded : UnpackedFloat.mul .binary64 (.finite s m₁ e₁ positive₁)
        (.finite .positive m e positive) =
          roundWithAccuracy .binary64 (s * .positive) (m₁ * m) (e₁ + e) .exact := rfl
    rw [rounded, sign_mul_positive]
    rw [totalExponent] at lead
    have up : totalExponent (m₁ * m) (e₁ + e) = (m₁ * m).log2 + 1 + (e₁ + e) := rfl
    exact (reaches_roundWithAccuracy (Nat.mul_pos positive₁ positive) (by omega) (by omega)).mono
      (by omega)

end

/-! ### Floats -/

section

variable {x y : Float} {m m' : Nat} {e e' k : Int} {s : Sign}

theorem unpack_sub (x y : Float) :
    (x - y).toModel.unpack = UnpackedFloat.unpack .binary64 (UnpackedFloat.pack .binary64
      (UnpackedFloat.sub .binary64 x.toModel.unpack y.toModel.unpack)) := rfl

theorem unpack_div (x y : Float) :
    (x / y).toModel.unpack = UnpackedFloat.unpack .binary64 (UnpackedFloat.pack .binary64
      (UnpackedFloat.div .binary64 x.toModel.unpack y.toModel.unpack)) := rfl

theorem unpack_mul (x y : Float) :
    (x * y).toModel.unpack = UnpackedFloat.unpack .binary64 (UnpackedFloat.pack .binary64
      (UnpackedFloat.mul .binary64 x.toModel.unpack y.toModel.unpack)) := rfl

theorem unpack_packedZero (s : Sign) :
    UnpackedFloat.unpack .binary64 (UnpackedFloat.pack .binary64 (.zero s)) = .zero s := by
  cases s <;> rfl

/-- The parts of a float that is not negative. -/
theorem unpack_of_nonneg (nonneg : 0 ≤ x) :
    (∃ s, x.toModel.unpack = .zero s) ∨
      (∃ m e positive, x.toModel.unpack = .finite .positive m e positive) ∨
      x.toModel.unpack = .infinity .positive := by
  have atLeast : (UnpackedFloat.zero .positive).le x.toModel.unpack = true :=
    of_decide_eq_true nonneg
  generalize x.toModel.unpack = u at *
  rcases u with ⟨_ | _⟩ | _ | s | ⟨_ | _, m, e, positive⟩
  · cases atLeast
  · exact .inr (.inr rfl)
  · cases atLeast
  · exact .inl ⟨s, rfl⟩
  · cases atLeast
  · exact .inr (.inl ⟨m, e, positive, rfl⟩)

theorem isFinite_eq (x : Float) : x.isFinite = x.toModel.unpack.isFinite := rfl

theorem lt_iff_parts {u v : UnpackedFloat} (first : x.toModel.unpack = u)
    (second : y.toModel.unpack = v) : x < y ↔ u.lt v = true := by
  rw [← first, ← second]
  exact decide_eq_true_iff

theorem finite_lt_iff {positive : 0 < m} {positive' : 0 < m'} :
    (UnpackedFloat.finite .positive m e positive).lt (.finite .positive m' e' positive') = true ↔
      e < e' ∨ e = e' ∧ m < m' := by
  rw [UnpackedFloat.lt, compare_eq_place rfl rfl, beq_iff_eq, Option.some.injEq, compare_lt_iff_lt]
  simp [place, Prod.Lex.toLex_lt_toLex]

theorem not_lt_zero (nonneg : 0 ≤ x) (zero : y.toModel.unpack = .zero s) : ¬x < y := by
  rcases unpack_of_nonneg nonneg with ⟨s', parts⟩ | ⟨m, e, positive, parts⟩ | parts <;>
    rw [lt_iff_parts parts zero] <;> nofun

theorem not_infinite_lt (infinite : x.toModel.unpack = .infinity .positive) : ¬x < y := by
  rw [lt_iff_parts infinite rfl]
  rcases y.toModel.unpack with ⟨_ | _⟩ | _ | _ | _ <;> nofun

/-- What reaches a place on one side of zero lies on that side. -/
theorem lt_zero_of_reaches (reaches : Reaches k .negative x.toModel.unpack) :
    x < 0 ∧ ¬0 < x := by
  rw [lt_iff_parts rfl rfl, lt_iff_parts rfl rfl]
  generalize x.toModel.unpack = u at reaches
  cases reaches <;> exact ⟨rfl, nofun⟩

theorem zero_lt_of_reaches (reaches : Reaches k .positive x.toModel.unpack) :
    0 < x ∧ ¬x < 0 := by
  rw [lt_iff_parts rfl rfl, lt_iff_parts rfl rfl]
  generalize x.toModel.unpack = u at reaches
  cases reaches <;> exact ⟨rfl, nofun⟩

theorem canonical_of_parts {positive : 0 < m} (parts : x.toModel.unpack = .finite s m e positive) :
    Canonical m e := by
  have all : IsCanonical x.toModel.unpack := isCanonical_unpack
  rwa [parts] at all

/-- The difference to an earlier value reaches the last digit of that value. -/
theorem reaches_difference {positive : 0 < m} (nonneg : 0 ≤ x)
    (parts : y.toModel.unpack = .finite .positive m e positive) :
    (y < x → Reaches e .positive (UnpackedFloat.sub .binary64 x.toModel.unpack y.toModel.unpack)) ∧
      (x < y →
        Reaches e .negative (UnpackedFloat.sub .binary64 x.toModel.unpack y.toModel.unpack)) := by
  have canonical := canonical_of_parts parts
  rcases unpack_of_nonneg nonneg with ⟨s, zero⟩ | ⟨m', e', positive', finite⟩ | infinite
  · rw [lt_iff_parts zero parts, lt_iff_parts parts zero, zero, parts]
    exact ⟨nofun, fun _ => .finite positive canonical lt_totalExponent.le⟩
  · have canonical' := canonical_of_parts finite
    rw [lt_iff_parts finite parts, lt_iff_parts parts finite, finite, parts, finite_lt_iff,
      finite_lt_iff]
    constructor
    · intro more
      exact (reaches_sub_of_lt canonical canonical' more).1.mono (by omega)
    · intro less
      exact (reaches_sub_of_lt canonical' canonical less).2
  · rw [lt_iff_parts infinite parts, lt_iff_parts parts infinite, infinite, parts]
    exact ⟨fun _ => .infinity, nofun⟩

/-- Values of which neither is greater are the same, if they are not zero. -/
theorem unpack_eq_of_not_lt {positive : 0 < m} (nonneg : 0 ≤ x)
    (parts : y.toModel.unpack = .finite .positive m e positive) (above : ¬y < x) (below : ¬x < y) :
    x.toModel.unpack = .finite .positive m e positive := by
  rcases unpack_of_nonneg nonneg with ⟨s, zero⟩ | ⟨m', e', positive', finite⟩ | infinite
  · exact absurd ((lt_iff_parts zero parts).2 rfl) below
  · rw [lt_iff_parts parts finite, finite_lt_iff] at above
    rw [lt_iff_parts finite parts, finite_lt_iff] at below
    obtain ⟨rfl, rfl⟩ : e' = e ∧ m' = m := by omega
    exact finite
  · exact absurd ((lt_iff_parts parts infinite).2 rfl) above

theorem not_lt_of_lt (less : x < y) : ¬y < x := by
  intro back
  have first := isNaN_of_lt_float back
  have second := isNaN_of_lt_float less
  rw [lt_iff_placeOf first second] at less
  rw [lt_iff_placeOf second first] at back
  exact less.asymm back

end

end Promptuary.Number
