import Promptuary.Datum.Message

/-!
JSON text of a datum. A `Layout` holds what differs between the texts: the blanks after a comma and
a colon, line breaks, which characters are escaped, how floats look, and what happens to a datum
that JSON has no form for. Containers lie in one another up to a limit, and what is written first
fails first.
-/

namespace Promptuary.Json

open Number (FloatFormat floatText intDigits IntegerError writeInt)

/-- What happens to a moment or to token counts. -/
inductive Foreign where
  /-- They are refused. -/
  | refuse
  /-- They are written as the text that messages show. -/
  | asMessage
  /-- They are written in the form in which records are stored. -/
  | stored
deriving DecidableEq

/-- The decisions of one kind of JSON text. -/
structure Layout where
  /-- Whether every character beyond printable ASCII is escaped. -/
  ascii : Bool
  /-- Whether a blank follows a comma and a colon. -/
  spaced : Bool
  /-- Whether items stand on lines of their own, two blanks further in than their container. -/
  broken : Bool
  floats : FloatFormat
  foreign : Foreign

/-- Documents of a key-value store. -/
def Layout.line : Layout := ⟨true, true, false, .document, .refuse⟩

/-- Documents in files. -/
def Layout.page : Layout := ⟨true, true, true, .document, .refuse⟩

/-- Objects and arrays inside a compiled prompt. -/
def Layout.inline : Layout := ⟨false, false, false, .document, .asMessage⟩

/-- Bodies of webhook requests. -/
def Layout.body : Layout := ⟨false, false, false, .wire, .stored⟩

/-- Why a datum has no JSON text. -/
inductive WriteError where
  /-- JSON has no form for the kind of datum named. -/
  | foreign (kind : String)
  | integer (cause : IntegerError)
  /-- A container lies in too many others. -/
  | tooDeep
deriving DecidableEq, Repr

/-- The wording of a write error. -/
def WriteError.message : WriteError → String
  | .foreign kind => s!"Object of type {kind} is not JSON serializable"
  | .integer cause => cause.message
  | .tooDeep => "maximum recursion depth exceeded while encoding a JSON object"

/-! ### Texts -/

/-- A unit of sixteen bits as an escape. -/
def unitEscape (n : Nat) : List Char := '\\' :: 'u' :: Text.hexDigits n 4

/-- A character as one escape, or as two beyond sixteen bits. -/
def charEscape (c : Char) : List Char :=
  let n := c.toNat
  if n < 0x10000 then unitEscape n
  else unitEscape (0xD800 + (n - 0x10000) / 0x400) ++ unitEscape (0xDC00 + (n - 0x10000) % 0x400)

/-- A character inside a text. -/
def writeChar (ascii : Bool) (c : Char) : List Char :=
  if c = '"' then ['\\', '"']
  else if c = '\\' then ['\\', '\\']
  else if c = '\n' then ['\\', 'n']
  else if c = '\r' then ['\\', 'r']
  else if c = '\t' then ['\\', 't']
  else if c = '\x0c' then ['\\', 'f']
  else if c = '\x08' then ['\\', 'b']
  else if c.toNat < 32 || (ascii && 126 < c.toNat) then charEscape c
  else [c]

/-- A text between quotes. -/
def writeText (ascii : Bool) (s : String) : List Char :=
  '"' :: s.toList.flatMap (writeChar ascii) ++ ['"']

/-! ### Data -/

/-- A line break at a depth, where the layout has line breaks. -/
def Layout.newline (l : Layout) (depth : Nat) : List Char :=
  if l.broken then '\n' :: List.replicate (2 * depth) ' ' else []

/-- What separates two items at a depth. -/
def Layout.comma (l : Layout) (depth : Nat) : List Char :=
  if l.broken then ',' :: l.newline depth else if l.spaced then [',', ' '] else [',']

/-- What separates a name from its value. -/
def Layout.colon (l : Layout) : List Char := if l.spaced then [':', ' '] else [':']

/-- Written items between brackets. -/
def Layout.enclose (l : Layout) (depth : Nat) (opening closing : Char) (items : List (List Char)) :
    List Char :=
  if items.isEmpty then [opening, closing]
  else
    opening :: l.newline (depth + 1) ++ (l.comma (depth + 1)).intercalate items ++
      l.newline depth ++ [closing]

/-- A written integer. -/
def writeInteger (n : Int) : Except WriteError (List Char) :=
  match writeInt n with
  | .ok s => .ok s.toList
  | .error e => .error (.integer e)

/-- Three named counts as a written object. -/
def Layout.writeUsage (l : Layout) (depth : Nat) (u : TokenUsage) : List Char :=
  let field (name : String) (n : Int) := writeText l.ascii name ++ l.colon ++ intDigits n
  l.enclose depth '\x7b' '\x7d'
    [field "prompt" u.prompt, field "completion" u.completion, field "total" u.total]

/-- Fails if a container at a depth lies in too many others. -/
def enter (limit depth : Nat) : Except WriteError Unit :=
  if depth < limit then .ok () else .error .tooDeep

mutual

/-- A datum as JSON text at a depth. -/
def write (l : Layout) (limit depth : Nat) : Datum → Except WriteError (List Char)
  | .null => .ok ['n', 'u', 'l', 'l']
  | .bool b => .ok (if b then ['t', 'r', 'u', 'e'] else ['f', 'a', 'l', 's', 'e'])
  | .int n => writeInteger n
  | .float x => .ok (floatText l.floats x).toList
  | .nan => .ok (floatText l.floats Number.notANumber).toList
  | .text s => .ok (writeText l.ascii s)
  | .list xs => do
    enter limit depth
    return l.enclose depth '[' ']' (← writeItems l limit (depth + 1) xs)
  | .tuple xs => do
    enter limit depth
    return l.enclose depth '[' ']' (← writeItems l limit (depth + 1) xs)
  | .object fs => do
    enter limit depth
    return l.enclose depth '\x7b' '\x7d' (← writeFields l limit (depth + 1) fs)
  | .moment t =>
    match l.foreign with
    | .refuse => .error (.foreign "datetime")
    | .asMessage => .ok (writeText l.ascii t.plain)
    | .stored => .ok (writeText l.ascii t.iso)
  | .usage u =>
    match l.foreign with
    | .refuse => .error (.foreign "TokenUsage")
    | .asMessage => .ok (writeText l.ascii (Datum.usageShown " " u))
    | .stored => .ok (l.writeUsage depth u)

/-- The items of a list at a depth. -/
def writeItems (l : Layout) (limit depth : Nat) :
    List Datum → Except WriteError (List (List Char))
  | [] => .ok []
  | x :: xs => do return (← write l limit depth x) :: (← writeItems l limit depth xs)

/-- The fields of an object at a depth. -/
def writeFields (l : Layout) (limit depth : Nat) :
    List (String × Datum) → Except WriteError (List (List Char))
  | [] => .ok []
  | (key, value) :: fs => do
    return (writeText l.ascii key ++ l.colon ++ (← write l limit depth value)) ::
      (← writeFields l limit depth fs)

end

/-- A datum as JSON text, in which containers may lie in one another up to a limit. -/
def print (l : Layout) (d : Datum) (limit : Nat := Datum.callLimit) : Except WriteError String :=
  (write l limit 0 d).map String.ofList

end Promptuary.Json
