/-!
What a floating-point number is, in exact terms: not a number, an infinity, or a sign with a
natural number times a power of two. All texts of floats and all comparisons of floats with
integers go through this reading.
-/

namespace Promptuary.Number

/-! ### Rounding -/

/-- The natural number nearest to `num / den`; of two equally near ones the even one. -/
def roundHalfEven (num den : Nat) : Nat :=
  let whole := num / den
  let twice := 2 * (num % den)
  if den < twice || (twice = den && whole % 2 = 1) then whole + 1 else whole

/-- The rounded quotient is at most half a unit away. -/
theorem roundHalfEven_near (num : Nat) {den : Nat} (h : 0 < den) :
    2 * num ≤ (2 * roundHalfEven num den + 1) * den ∧
      2 * roundHalfEven num den * den ≤ 2 * num + den := by
  have hdiv := Nat.div_add_mod num den
  have hmod := Nat.mod_lt num h
  unfold roundHalfEven
  generalize num / den = q at *
  generalize num % den = r at *
  subst hdiv
  dsimp only
  split
  · next up =>
    have hr : den ≤ 2 * r := by
      simp only [Bool.or_eq_true, decide_eq_true_eq, Bool.and_eq_true] at up
      omega
    constructor <;> grind
  · next down =>
    have hr : 2 * r ≤ den := by
      simp only [Bool.or_eq_true, decide_eq_true_eq, Bool.and_eq_true] at down
      omega
    constructor <;> grind

/-! ### The content of a float -/

/-- The exact content of a float. -/
inductive Binary where
  | nan
  | infinite (negative : Bool)
  | finite (negative : Bool) (mantissa : Nat) (exponent : Int)
deriving DecidableEq, Repr

/-- What is not a number, as a float. -/
def notANumber : Float := 0.0 / 0.0

/-- A power of two. -/
def twoTo (n : Nat) : Nat := Nat.pow 2 n

theorem twoTo_pos (n : Nat) : 0 < twoTo n := Nat.two_pow_pos n

/-- A power of ten. -/
def tenTo (n : Nat) : Nat := Nat.pow 10 n

/-- Reads the 64 bits of a float: one for the sign, eleven for the exponent, 52 for the fraction. -/
def Binary.ofFloat (x : Float) : Binary :=
  let bits : Nat := x.toBits.toNat
  let negative : Bool := bits / twoTo 63 % 2 = 1
  let field : Nat := bits / twoTo 52 % twoTo 11
  let fraction : Nat := bits % twoTo 52
  if field = 2047 then
    if fraction = 0 then .infinite negative else .nan
  else if field = 0 then .finite negative fraction (-1074)
  else .finite negative (fraction + twoTo 52) (field - 1075)

/-- `mantissa · 2 ^ exponent` as a numerator over a positive denominator. -/
def scaled (mantissa : Nat) (exponent : Int) : Nat × Nat :=
  (mantissa * twoTo exponent.toNat, twoTo (-exponent).toNat)

theorem scaled_den_pos (mantissa : Nat) (exponent : Int) : 0 < (scaled mantissa exponent).2 :=
  twoTo_pos _

/-- The value of a finite float when it is a whole number. -/
def Binary.toInt? : Binary → Option Int
  | .finite negative mantissa exponent =>
    let (num, den) := scaled mantissa exponent
    if num % den = 0 then
      let n := num / den
      some (if negative then -(n : Int) else n)
    else none
  | _ => none

/-- A finite float rounded to an integer, a half going to the even neighbour. -/
def Binary.round? : Binary → Option Int
  | .finite negative mantissa exponent =>
    let (num, den) := scaled mantissa exponent
    let n := roundHalfEven num den
    some (if negative then -(n : Int) else n)
  | _ => none

/-- A finite float rounded down to an integer. -/
def Binary.floor? : Binary → Option Int
  | .finite negative mantissa exponent =>
    let (num, den) := scaled mantissa exponent
    some (Int.fdiv (if negative then -(num : Int) else num) den)
  | _ => none

/-- An integer compared with a float, exactly; nothing compares with what is not a number. -/
def Binary.compareInt (n : Int) : Binary → Option Ordering
  | .nan => none
  | .infinite negative => some (if negative then .gt else .lt)
  | .finite negative mantissa exponent =>
    let (num, den) := scaled mantissa exponent
    some (compare (n * den) (if negative then -(num : Int) else num))

/-- The float nearest to an integer, if the integer lies within the range of floats. -/
def floatOfInt? (n : Int) : Option Float :=
  let x := Float.ofInt n
  if x.isFinite then some x else none

/-- The float nearest to the quotient of an integer and a positive number, if it lies within the
range of floats. The quotient is cut off after more than 60 binary digits; a last digit of one
stands for what was cut off. -/
def floatOfRatio? (n : Int) (d : Nat) : Option Float :=
  let places := d.log2 + 64 - n.natAbs.log2
  let num := n.natAbs * twoTo places
  let cut := if num % d = 0 then num / d else num / d ||| 1
  let x := Float.ofNat cut / Float.ofNat (twoTo places)
  if x.isFinite then some (if n < 0 then -x else x) else none

/-- The text of an error that arises where an integer lies beyond the range of floats. -/
def beyondFloat : String := "int too large to convert to float"

end Promptuary.Number
