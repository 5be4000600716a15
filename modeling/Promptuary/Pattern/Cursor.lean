import Promptuary.Pattern.Width

/-!
A place in the text of a pattern while it is being read. The text is read piece by piece, a
backslash together with the character after it, and one piece ahead, so that a backslash at the very
end is found as soon as the piece before it has been taken.
-/

namespace Promptuary.Pattern

/-- A character of the text of a pattern, or an escape. -/
inductive Piece where
  | plain (c : Char)
  | escape (c : Char)
deriving DecidableEq

/-- A piece as text. -/
def Piece.text : Piece → String
  | .plain c => String.singleton c
  | .escape c => String.ofList ['\\', c]

/-- The number of characters of a piece. -/
def Piece.length : Piece → Nat
  | .plain _ => 1
  | .escape _ => 2

/-- What the parser knows at a place of the text. -/
structure Cursor where
  text : Array Char
  position : Nat
  modes : Modes
  /-- The letters of the modes that have been switched on for the whole pattern. -/
  switched : List Char
  /-- The width of each group so far, none for one that is open. -/
  groups : List (Option Width)
  names : List (String × Nat)
  /-- The number of groups before the outermost look-behind that is open. -/
  behindFrom : Option Nat
  /-- The groups that a condition names, and where. -/
  conditions : List (Nat × Nat)

/-- A step of the parser. -/
abbrev Step := StateT Cursor (Except PatternError)

/-- Stops at a place some characters before the current one. -/
def fail {α : Type} (fault : Fault) (back : Nat := 0) : Step α := do
  throw (.malformed fault (some ((← get).position - back)))

/-- The piece at a position. -/
def pieceAt (text : Array Char) (position : Nat) : Option Piece :=
  match text[position]? with
  | none => none
  | some '\\' => text[position + 1]?.map .escape
  | some c => some (.plain c)

/-- Makes sure that no lone backslash stands at a position. -/
def checkAhead (text : Array Char) (position : Nat) : Step Unit :=
  if text[position]? = some '\\' && position + 1 = text.size then
    throw (.malformed .trailingBackslash (some position))
  else pure ()

/-- The piece ahead. -/
def peek : Step (Option Piece) := do
  let s ← get
  return pieceAt s.text s.position

/-- Takes the piece ahead. -/
def advance : Step (Option Piece) := do
  let s ← get
  match pieceAt s.text s.position with
  | none => return none
  | some piece =>
    let position := s.position + piece.length
    checkAhead s.text position
    set { s with position }
    return some piece

/-- Takes the piece ahead if it is a given character. -/
def accept (c : Char) : Step Bool := do
  if (← peek) = some (.plain c) then
    discard advance
    return true
  else return false

/-- Takes up to `count` characters of a class. -/
def acceptWhile (p : Char → Bool) : (count : Nat) → Step (List Char)
  | 0 => return []
  | count + 1 => do
    match ← peek with
    | some (.plain c) =>
      if p c then
        discard advance
        return c :: (← acceptWhile p count)
      else return []
    | _ => return []

/-- Takes the text up to a terminator, and the terminator. -/
def takeUntil (terminator : Char) (what : String) : (fuel : Nat) → (read : String) → Step String
  | 0, _ => fail .unexpectedEnd
  | fuel + 1, read => do
    match ← advance with
    | none =>
      if read.isEmpty then fail (.missing what)
      else fail (.unterminatedName (String.singleton terminator)) read.length
    | some piece =>
      if piece = .plain terminator then
        if read.isEmpty then fail (.missing what) 1 else return read
      else takeUntil terminator what fuel (read ++ piece.text)

end Promptuary.Pattern
