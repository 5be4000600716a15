import Promptuary.Pattern.Cursor
import Promptuary.Text.CharacterName

/-!
Escapes in the text of a pattern: characters by letter, number or name, classes of characters, and
references to groups.
-/

namespace Promptuary.Pattern

/-- Digits to base sixteen. -/
def isHex (c : Char) : Bool := c.isDigit || ('a' ≤ c && c ≤ 'f') || ('A' ≤ c && c ≤ 'F')

/-- Digits to base eight. -/
def isOctal (c : Char) : Bool := '0' ≤ c && c ≤ '7'

/-- The number that digits denote to a base. -/
def ofBase (base : Nat) (cs : List Char) : Nat :=
  cs.foldl (fun n c =>
    let d := if c.isDigit then c.toNat - 48 else c.toLower.toNat - 87
    base * n + d) 0

/-- The named classes, and their complements in capitals. -/
def kindOf? (c : Char) : Option (Kind × Bool) :=
  if c = 'd' then some (.digit, false)
  else if c = 'D' then some (.digit, true)
  else if c = 's' then some (.space, false)
  else if c = 'S' then some (.space, true)
  else if c = 'w' then some (.word, false)
  else if c = 'W' then some (.word, true)
  else none

/-- The control characters with a letter of their own. -/
def controlOf? (c : Char) : Option Char :=
  if c = 'a' then some '\x07'
  else if c = 'b' then some '\x08'
  else if c = 'f' then some '\x0c'
  else if c = 'n' then some '\n'
  else if c = 'r' then some '\r'
  else if c = 't' then some '\t'
  else if c = 'v' then some '\x0b'
  else if c = '\\' then some '\\'
  else none

/-- An escape by the number of a character, after its first letter. -/
def numberedEscape (letter : Char) (width : Nat) : Step Code := do
  let digits ← acceptWhile isHex width
  let text := String.ofList ('\\' :: letter :: digits)
  if digits.length ≠ width then fail (.incompleteEscape text) text.length
  let n := ofBase 16 digits
  if n ≤ 0x10FFFF then return n else fail (.badEscape text) text.length

/-- An escape by the name of a character. -/
def namedEscape : Step Code := do
  if !(← accept '\x7b') then fail .missingBrace
  let name ← takeUntil '\x7d' "character name" ((← get).text.size + 1) ""
  match Text.CharacterName.find? name with
  | some c => return c.toNat
  | none => fail (.unknownCharacterName name) (name.length + 4)

/-- The code point that an escape in octal digits denotes. -/
def octalEscape (digits : List Char) : Step Code := do
  let n := ofBase 8 digits
  let text := String.ofList ('\\' :: digits)
  if 0o377 < n then fail (.octalRange text) text.length else return n

/-- A letter without meaning may not be escaped; any other character stands for itself. -/
def plainEscape (c : Char) : Step Code :=
  if c.isAlphanum then fail (.badEscape (String.ofList ['\\', c])) 2 else return c.toNat

/-- An escape inside a set. -/
def setEscape (ascii : Bool) (c : Char) : Step Member := do
  match controlOf? c, kindOf? c with
  | some d, _ => return .char d.toNat
  | none, some (kind, negated) => return .kind kind negated ascii
  | none, none =>
    if c = 'x' then return .char (← numberedEscape c 2)
    else if c = 'u' then return .char (← numberedEscape c 4)
    else if c = 'U' then return .char (← numberedEscape c 8)
    else if c = 'N' then return .char (← namedEscape)
    else if isOctal c then return .char (← octalEscape (c :: (← acceptWhile isOctal 2)))
    else return .char (← plainEscape c)

/-- Makes sure that a group may be referred to here. -/
def checkGroup (index back : Nat) : Step Unit := do
  let s ← get
  if (s.groups[index]?.join).isNone then fail .openGroup back
  match s.behindFrom with
  | some first => if first ≤ index then fail .sameLookbehind
  | none => pure ()

/-- A reference to a group by its number, or an escape of three octal digits. -/
def referenceEscape (modes : Modes) (c : Char) : Step Node := do
  let second ← acceptWhile Char.isDigit 1
  let third ← match second with
    | [d] => if isOctal c && isOctal d then acceptWhile isOctal 1 else pure []
    | _ => pure []
  let digits := c :: second ++ third
  if third.length = 1 then
    return .char modes.folding false (← octalEscape digits)
  let index := ofBase 10 digits
  if index < (← get).groups.length then
    checkGroup index (digits.length + 1)
    return .back modes.folding index
  fail (.invalidReference index) digits.length

/-- An escape outside a set. -/
def nodeEscape (modes : Modes) (c : Char) : Step Node := do
  let char (code : Code) : Node := .char modes.folding false code
  match kindOf? c with
  | some (kind, negated) => return .set modes.folding false [.kind kind negated modes.ascii]
  | none =>
    if c = 'A' then return .place .textStart
    else if c = 'Z' then return .place .textEnd
    else if c = 'b' then return .place (.boundary false modes.ascii)
    else if c = 'B' then return .place (.boundary true modes.ascii)
    else
      match controlOf? c with
      | some d => return char d.toNat
      | none =>
        if c = 'x' then return char (← numberedEscape c 2)
        else if c = 'u' then return char (← numberedEscape c 4)
        else if c = 'U' then return char (← numberedEscape c 8)
        else if c = 'N' then return char (← namedEscape)
        else if c = '0' then return char (← octalEscape (c :: (← acceptWhile isOctal 2)))
        else if c.isDigit then referenceEscape modes c
        else return char (← plainEscape c)

end Promptuary.Pattern
