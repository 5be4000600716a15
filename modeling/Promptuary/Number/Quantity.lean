import Promptuary.Number.Reading

/-!
Numbers as callers bind them: integers of any size and floats, compared by their exact values.
-/

namespace Promptuary.Number

/-- An integer or a float. -/
inductive Quantity where
  | int (n : Int)
  | float (x : Float)

namespace Quantity

/-- The order of two quantities by value; what is not a number compares with nothing. -/
def compare? : Quantity → Quantity → Option Ordering
  | .int m, .int n => some (compare m n)
  | .int n, .float x => (Binary.ofFloat x).compareInt n
  | .float x, .int n => ((Binary.ofFloat x).compareInt n).map Ordering.swap
  | .float x, .float y =>
    if x < y then some .lt else if y < x then some .gt else if x == y then some .eq else none

/-- Equality by value. -/
def same (a b : Quantity) : Bool := a.compare? b == some .eq

/-- Whether one quantity is less than another by value. -/
def lt (a b : Quantity) : Bool := a.compare? b == some .lt

/-- Whether a quantity is not a number. -/
def isNaN : Quantity → Bool
  | .int _ => false
  | .float x => x.isNaN

/-- A quantity as rendered text: a whole float like an integer, any other by its shortest digits. -/
def render : Quantity → Except IntegerError String
  | .int n => writeInt n
  | .float x =>
    match Binary.ofFloat x with
    | .nan => .ok "NaN"
    | .infinite negative => .ok (if negative then "-Infinity" else "Infinity")
    | b =>
      match b.toInt? with
      | some n => .ok (String.ofList (intDigits n))
      | none => .ok (floatText .message x)

end Quantity

end Promptuary.Number
