import Promptuary.Failure
import Promptuary.Schema.Shape

/-!
The numbers that are measured and averaged. All statistics are written over a type of scalars, so
that they run on floats and can be reasoned about in any ordered field.
-/

namespace Promptuary

/-- A type of numbers that can be measured, averaged, compared and written. -/
class Scalar (α : Type) extends Add α, Sub α, Mul α, Div α, Neg α where
  /-- An integer as a scalar, unless it lies beyond the range of scalars. -/
  ofInt? : Int → Option α
  /-- The quotient of an integer and a positive number as a scalar, unless it lies beyond the range
  of scalars. -/
  ofRatio? : Int → Nat → Option α
  /-- `digits / 10 ^ places`. -/
  decimal : (digits places : Nat) → α
  lt : α → α → Bool
  same : α → α → Bool
  sqrt : α → α
  /-- The greatest integer that is not greater. -/
  floor : α → Int
  /-- The nearest integer, a half going to the even neighbour. -/
  round : α → Except NumberError Int
  toDatum : α → Datum
  shape : Schema.Shape α

namespace Scalar

variable {α : Type} [Scalar α]

/-- A small number as a scalar. -/
def ofNat (n : Nat) : α := decimal n 0

/-- Zero. -/
def zero : α := ofNat 0

/-- One. -/
def one : α := ofNat 1

/-- An integer as a scalar. -/
def ofInt (n : Int) : Except NumberError α :=
  match ofInt? n with
  | some x => .ok x
  | none => .error .beyondFloat

/-- The size of a scalar. -/
def abs (x : α) : α := if lt x zero then -x else x

/-- Whether a scalar is not greater than another. -/
def le (x y : α) : Bool := lt x y || same x y

/-- The quotient of an integer and a positive number as a scalar. -/
def quotient (n : Int) (d : Nat) : Except NumberError α :=
  match ofRatio? n d with
  | some x => .ok x
  | none => .error .quotientBeyondFloat

/-- The sum of scalars, added from the first to the last. -/
def sum (xs : List α) : α := xs.foldl (· + ·) zero

/-- Eight sums that are carried on side by side. -/
structure Lanes (α : Type) where
  (a b c d e f g h : α)

namespace Lanes

/-- Eight sums, added by pairs. -/
def total (s : Lanes α) : α := ((s.a + s.b) + (s.c + s.d)) + ((s.e + s.f) + (s.g + s.h))

/-- The sum of what is carried and further scalars. Each eight of them go to one sum each; what is
left is added from the first to the last. -/
def carry (s : Lanes α) : List α → α
  | a :: b :: c :: d :: e :: f :: g :: h :: xs =>
    carry ⟨s.a + a, s.b + b, s.c + c, s.d + d, s.e + e, s.f + f, s.g + g, s.h + h⟩ xs
  | xs => xs.foldl (· + ·) s.total

end Lanes

/-- The sum of a block of scalars. -/
def blockSum : List α → α
  | a :: b :: c :: d :: e :: f :: g :: h :: xs => Lanes.carry ⟨a, b, c, d, e, f, g, h⟩ xs
  | xs => sum xs

/-- The sum of an array of scalars: a block, or the sums of its halves if there are more than 128.
The first half is made of whole eights. -/
def arraySum (xs : List α) : α :=
  if xs.length ≤ 128 then blockSum xs
  else
    let half := xs.length / 2 - xs.length / 2 % 8
    arraySum (xs.take half) + arraySum (xs.drop half)
termination_by xs.length
decreasing_by
  · rw [List.length_take]
    omega
  · rw [List.length_drop]
    omega

/-- The sum of counts. -/
def tally (counts : List Int) : Int := counts.foldl (· + ·) 0

end Scalar

open Number in
instance : Scalar Float where
  ofInt? := floatOfInt?
  ofRatio? := floatOfRatio?
  decimal digits places := Float.ofScientific digits true places
  lt x y := x < y
  same x y := x == y
  sqrt := Float.sqrt
  floor x := ((Binary.ofFloat x).floor?).getD 0
  round x :=
    match Binary.ofFloat x with
    | .nan => .error .roundUndefined
    | .infinite _ => .error .roundInfinite
    | b => .ok (b.round?.getD 0)
  toDatum := .float
  shape := Schema.number

end Promptuary
