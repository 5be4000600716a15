import Promptuary.Number.Binary

/-!
The shortest decimal that reads back as a given float. A float is the nearest one to every real
number of an interval around it; the interval contains its ends if the float's mantissa is even.
For one digit, two digits and so on, the two neighbours of the float among the decimals of that
many digits are tested against the interval. The first count of digits with a hit wins, and of two
hits the nearer.
-/

namespace Promptuary.Number

/-- A positive decimal, `digits · 10 ^ exponent`. -/
structure Decimal where
  digits : Nat
  exponent : Int
deriving DecidableEq, Repr

/-- The number of decimal digits of a number, at least one. -/
def digitCount (n : Nat) : Nat := (Nat.toDigits 10 n).length

/-- How far `num / den`, a quotient below one, lies below one: the least `k` for which
`10 ^ k · num` reaches `den`, counted from `k` on. -/
def leadingZeros (den : Nat) : (fuel num k : Nat) → Nat
  | 0, _, k => k
  | fuel + 1, num, k => if den ≤ num then k else leadingZeros den fuel (10 * num) (k + 1)

/-- The exponent of the first digit of `num / den`. -/
def leadingExponent (num den : Nat) : Int :=
  if den ≤ num then digitCount (num / den) - 1 else -(leadingZeros den 400 num 0 : Int)

/-- The interval of the numbers that round to `mantissa · 2 ^ exponent`, in quarters of the last
place, and whether it contains its ends. Below a power of two the floats lie twice as close. -/
structure Neighbourhood where
  low : Nat
  value : Nat
  high : Nat
  closed : Bool

/-- The neighbourhood of a float. -/
def Neighbourhood.around (mantissa : Nat) (exponent : Int) : Neighbourhood where
  low := if mantissa = twoTo 52 && -1074 < exponent then 4 * mantissa - 1 else 4 * mantissa - 2
  value := 4 * mantissa
  high := 4 * mantissa + 2
  closed := mantissa % 2 = 0

/-- Whether `digits · 10 ^ place` lies in the interval, whose unit is `unit.1 / unit.2`. -/
def Neighbourhood.holds (i : Neighbourhood) (unit : Nat × Nat) (place : Int) (digits : Nat) :
    Bool :=
  let x := digits * tenTo place.toNat * unit.2
  let y := tenTo (-place).toNat * unit.1
  if i.closed then i.low * y ≤ x && x ≤ i.high * y else i.low * y < x && x < i.high * y

/-- Tests the decimals with their last digit at `place`, then those one place further on. -/
def shortestFrom (i : Neighbourhood) (unit : Nat × Nat) : (fuel : Nat) → (place : Int) → Decimal
  | 0, place => ⟨0, place⟩
  | fuel + 1, place =>
    let num := i.value * unit.1 * tenTo (-place).toNat
    let den := unit.2 * tenTo place.toNat
    let below := num / den
    let nearest := roundHalfEven num den
    let other := if nearest = below then below + 1 else below
    if nearest ≠ 0 && i.holds unit place nearest then ⟨nearest, place⟩
    else if other ≠ 0 && i.holds unit place other then ⟨other, place⟩
    else shortestFrom i unit fuel (place - 1)

/-- A decimal without zeros at the end of its digits. -/
def Decimal.stripZeros : (fuel : Nat) → Decimal → Decimal
  | 0, d => d
  | fuel + 1, d =>
    if d.digits ≠ 0 && d.digits % 10 = 0 then stripZeros fuel ⟨d.digits / 10, d.exponent + 1⟩ else d

/-- The shortest decimal that reads back as `mantissa · 2 ^ exponent`, a positive float. -/
def shortest (mantissa : Nat) (exponent : Int) : Decimal :=
  let (num, den) := scaled mantissa exponent
  let unit := scaled 1 (exponent - 2)
  (shortestFrom (.around mantissa exponent) unit 20 (leadingExponent num den)).stripZeros 20

end Promptuary.Number
