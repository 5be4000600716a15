import Promptuary.Pattern.Member

/-!
Spots: places in a text together with what the groups of a pattern have matched on the way there,
and the single steps from one spot to the next.
-/

namespace Promptuary.Pattern

/-- Where a group was opened last, and where it was closed last. -/
structure Capture where
  start : Nat
  stop : Option Nat
deriving DecidableEq, Hashable

/-- The stretch that a group has matched. A group that has been opened again beyond it has none. -/
def Capture.stretch? (c : Capture) : Option (Nat × Nat) := do
  let stop ← c.stop
  if c.start ≤ stop then some (c.start, stop) else none

/-- A place in a text, with what groups matched on the way there. -/
structure Spot where
  position : Nat
  captures : List (Nat × Capture) := []
deriving DecidableEq, Hashable

namespace Spot

/-- The stretch that the group of a number has matched. -/
def stretch? (s : Spot) (index : Nat) : Option (Nat × Nat) :=
  s.captures.lookup index >>= Capture.stretch?

/-- Keeps a capture for the group of a number. -/
def keep (s : Spot) (index : Nat) (c : Capture) : Spot :=
  { s with captures := (index, c) :: s.captures.filter (·.1 ≠ index) }

/-- Opens a group. -/
def openGroup (s : Spot) (index : Nat) : Spot :=
  s.keep index ⟨s.position, (s.captures.lookup index).bind (·.stop)⟩

/-- Closes a group. -/
def closeGroup (s : Spot) (index : Nat) : Spot :=
  match s.captures.lookup index with
  | some c => s.keep index { c with stop := some s.position }
  | none => s

/-- The spot with the same captures at another position. -/
def moved (s : Spot) (position : Nat) : Spot := { s with position }

end Spot

/-! ### Places -/

/-- Whether a place of a text is one of the kind. -/
def Place.holds (text : Array Char) (position : Nat) : Place → Bool
  | .textStart => position = 0
  | .textEnd => position = text.size
  | .start lines => position = 0 || (lines && text[position - 1]? = some '\n')
  | .stop lines =>
    position = text.size ||
      (text[position]? = some '\n' && (lines || position + 1 = text.size))
  | .boundary negated ascii =>
    let word (c : Option Char) : Bool := (c.map (isWordChar ascii)).getD false
    let before := if position = 0 then none else text[position - 1]?
    text.size ≠ 0 && (word before != word text[position]?) != negated

/-! ### Steps -/

/-- One character on, if the character at a spot passes a test. -/
def takeChar (text : Array Char) (p : Char → Bool) (s : Spot) : List Spot :=
  match text[s.position]? with
  | some c => if p c then [{ s with position := s.position + 1 }] else []
  | none => []

/-- Goes over the stretch that a group matched. -/
def takeGroup (text : Array Char) (folding : Text.Folding) (index : Nat) (s : Spot) : List Spot :=
  match s.stretch? index with
  | none => []
  | some (start, stop) =>
    let length := stop - start
    let same := (List.range length).all fun i =>
      match text[start + i]?, text[s.position + i]? with
      | some c, some d => folding.small c = folding.small d
      | _, _ => false
    if same then [{ s with position := s.position + length }] else []

/-- The place where the characters that pass a test end, at most a number of them. -/
def runEnd (text : Array Char) (p : Char → Bool) : (count position : Nat) → Nat
  | 0, position => position
  | count + 1, position =>
    match text[position]? with
    | some c => if p c then runEnd text p count (position + 1) else position
    | none => position

end Promptuary.Pattern
