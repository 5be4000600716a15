import Promptuary.Number.Reading
import Promptuary.Text.Split

/-!
Version labels. A label of three numerals with points between them has a successor, whose last
number is one greater; the successor of any other text is a fixed label.
-/

namespace Promptuary.Label

open Number (IntegerError readDigits writeInt)

/-- The label of a new template. -/
def initial : String := "1.0.0"

/-- The successor of a text that is no label of three numerals. -/
def fallback : String := "1.0.1"

/-- Whether a part of a label is made of digits, and of at least one. -/
def isNumeral (part : List Char) : Bool := !part.isEmpty && part.all Text.isDigit

/-- The successor of a label. A numeral may have digits without place value, or too many. -/
def next (label : String) : Except IntegerError String :=
  match Text.split '.' label.toList with
  | [major, minor, patch] =>
    if isNumeral major && isNumeral minor && isNumeral patch then do
      let major ← readDigits (String.ofList major)
      let minor ← readDigits (String.ofList minor)
      let patch ← readDigits (String.ofList patch)
      return s!"{← writeInt major}.{← writeInt minor}.{← writeInt (patch + 1 : Nat)}"
    else .ok fallback
  | _ => .ok fallback

/-- The first label in a line of successors that is not taken. -/
def skipTaken (taken : List String) : (fuel : Nat) → (label : String) → Except IntegerError String
  | 0, label => .ok label
  | fuel + 1, label =>
    if taken.contains label then do skipTaken taken fuel (← next label) else .ok label

/-- The least successor of a label that is not taken. The successors differ from one another, so one
step more than there are taken labels reaches a free one. -/
def nextFree (taken : List String) (label : String) : Except IntegerError String := do
  skipTaken taken (taken.length + 1) (← next label)

end Promptuary.Label
