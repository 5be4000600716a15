import Promptuary.Number.Shortest

/-!
How floats are written. A `FloatFormat` holds what differs from one kind of text to another: where
positional notation ends, how an exponent looks, and what stands for the values that are not
finite. The digits are always the shortest that read back.
-/

namespace Promptuary.Number

/-- The decisions of one kind of text. -/
structure FloatFormat where
  /-- The least exponent of a first digit that is written positionally. -/
  positionalFrom : Int
  /-- The least exponent of a first digit that is too large for that. -/
  positionalUntil : Int
  /-- The least number of digits of an exponent. -/
  exponentWidth : Nat
  nan : String
  infinity : String

/-- Floats in messages. -/
def FloatFormat.message : FloatFormat := ⟨-4, 16, 2, "nan", "inf"⟩

/-- Floats in stored and rendered documents. -/
def FloatFormat.document : FloatFormat :=
  { FloatFormat.message with nan := "NaN", infinity := "Infinity" }

/-- Floats in the bodies of webhook requests. -/
def FloatFormat.wire : FloatFormat := ⟨-5, 16, 1, "null", "null"⟩

/-- The digits of a number. -/
def natDigits (n : Nat) : List Char := Nat.toDigits 10 n

/-- The digits of a number, with zeros in front up to a width. -/
def paddedDigits (width n : Nat) : List Char :=
  let digits := natDigits n
  List.replicate (width - digits.length) '0' ++ digits

/-- The digits of an integer, after a minus sign if it is negative. -/
def intDigits (n : Int) : List Char :=
  if n < 0 then '-' :: natDigits n.natAbs else natDigits n.natAbs

/-- A power of ten as an exponent, always with a sign. -/
def exponentText (width : Nat) (e : Int) : List Char :=
  'e' :: (if e < 0 then '-' else '+') :: paddedDigits width e.natAbs

/-- A positive decimal in a format. Positional notation always has a point; a single digit before
an exponent has none. -/
def Decimal.text (format : FloatFormat) (d : Decimal) : List Char :=
  let digits := natDigits d.digits
  let lead := d.exponent + digits.length - 1
  if format.positionalFrom ≤ lead && lead < format.positionalUntil then
    if 0 ≤ d.exponent then digits ++ List.replicate d.exponent.toNat '0' ++ ['.', '0']
    else if 0 ≤ lead then
      digits.take (lead.toNat + 1) ++ '.' :: digits.drop (lead.toNat + 1)
    else ['0', '.'] ++ List.replicate (-lead - 1).toNat '0' ++ digits
  else
    let point := if digits.length = 1 then [] else ['.']
    digits.take 1 ++ point ++ digits.drop 1 ++ exponentText format.exponentWidth lead

/-- A float in a format; zero keeps its sign. -/
def floatText (format : FloatFormat) (x : Float) : String :=
  match Binary.ofFloat x with
  | .nan => format.nan
  | .infinite negative =>
    if negative && format.infinity ≠ "null" then "-" ++ format.infinity else format.infinity
  | .finite negative mantissa exponent =>
    let text := if mantissa = 0 then ['0', '.', '0'] else (shortest mantissa exponent).text format
    String.ofList (if negative then '-' :: text else text)

/-- A float in scientific notation with a fixed number of digits after the point, a half in the last
place going to the even digit. Zero has no sign here. -/
def scientificText (places : Nat) (x : Float) : String :=
  match Binary.ofFloat x with
  | .nan => "nan"
  | .infinite negative => if negative then "-inf" else "inf"
  | .finite negative mantissa exponent =>
    if mantissa = 0 then
      String.ofList ('0' :: '.' :: List.replicate places '0' ++ ['e', '+', '0', '0'])
    else
      let (num, den) := scaled mantissa exponent
      let lead := leadingExponent num den
      let place := lead - places
      let rounded := roundHalfEven (num * tenTo (-place).toNat) (den * tenTo place.toNat)
      let carry := rounded = tenTo (places + 1)
      let digits := natDigits (if carry then tenTo places else rounded)
      let text := digits.take 1 ++ '.' :: digits.drop 1 ++
        exponentText 2 (if carry then lead + 1 else lead)
      String.ofList (if negative then '-' :: text else text)

end Promptuary.Number
