import Promptuary.Datum.Basic
import Promptuary.Schema.Issue
import Promptuary.Text.Case

/-!
Shapes of data. A shape reads a datum as a value of some type; where the datum does not fit, it
reports every issue, in the order of the fields. Texts stay texts, but a number may be written as a
text, a truth value as a number or a word, and a moment as a text or a number.
-/

namespace Promptuary.Schema

open Calendar (Moment DateFault)

/-! ### Outcomes -/

/-- A value read, or everything that kept it from being read. -/
inductive Checked (α : Type) where
  | valid (value : α)
  | faulty (issues : List Issue)

namespace Checked

variable {α β : Type}

/-- Applies a function to a value read. -/
def map (f : α → β) : Checked α → Checked β
  | .valid a => .valid (f a)
  | .faulty issues => .faulty issues

/-- Applies a function that was read to a value that was read; issues of both add up. -/
def seq : Checked (α → β) → (Unit → Checked α) → Checked β
  | .valid f, x => (x ()).map f
  | .faulty issues, x =>
    match x () with
    | .valid _ => .faulty issues
    | .faulty more => .faulty (issues ++ more)

instance : Applicative Checked where
  pure := .valid
  map := map
  seq := seq

/-- Goes on with a value read. -/
def andThen (f : α → Checked β) : Checked α → Checked β
  | .valid a => f a
  | .faulty issues => .faulty issues

/-- What was read one step further in. -/
def within (step : String) : Checked α → Checked α
  | .valid a => .valid a
  | .faulty issues => .faulty (issues.map (·.within step))

/-- The outcome with issues as an error. -/
def toExcept : Checked α → Except (List Issue) α
  | .valid a => .ok a
  | .faulty issues => .error issues

end Checked

/-- One issue at the place itself. -/
def fault {α : Type} (cause : Cause) : Checked α := .faulty [⟨[], cause⟩]

/-- How a datum is read as a value. -/
abbrev Shape (α : Type) := Datum → Checked α

/-- How the fields of an object are read as a value. -/
abbrev FieldsShape (α : Type) := Fields → Checked α

/-! ### Single values -/

/-- Any datum. -/
def anything : Shape Datum := .valid

/-- A text. -/
def text : Shape String
  | .text s => .valid s
  | _ => fault .text

/-- The size from which on a float stands for no integer. -/
def wordLimit : Int := 9223372036854775808

/-- The integer that a float stands for: a whole number of less than 64 bits. -/
def wordOf? (b : Number.Binary) : Except Cause Int :=
  match b.toInt? with
  | none => .error .fraction
  | some n => if -wordLimit < n && n < wordLimit then .ok n else .error .integerSize

/-- An integer: also a whole number, a truth value, or a text that holds one. -/
def integer : Shape Int
  | .int n => .valid n
  | .bool b => .valid (if b then 1 else 0)
  | .float x =>
    match Number.Binary.ofFloat x with
    | .nan => fault .notFinite
    | .infinite _ => fault .notFinite
    | b =>
      match wordOf? b with
      | .ok n => .valid n
      | .error cause => fault cause
  | .nan => fault .notFinite
  | .text s =>
    match Number.readInt s with
    | .ok n => .valid n
    | .error .tooLong => fault .integerSize
    | .error .malformed => fault .integerText
  | _ => fault .integer

/-- A number: also a truth value, or a text that holds one. -/
def number : Shape Float
  | .float x => .valid x
  | .nan => .valid Number.notANumber
  | .int n =>
    match Number.floatOfInt? n with
    | some x => .valid x
    | none => fault .number
  | .bool b => .valid (if b then 1 else 0)
  | .text s =>
    match Number.readFloat? s with
    | some x => .valid x
    | none => fault .numberText
  | _ => fault .number

/-- The words that stand for truth. -/
def truthWords : List String := ["1", "true", "t", "yes", "y", "on"]

/-- The words that stand for falsehood. -/
def falsehoodWords : List String := ["0", "false", "f", "no", "n", "off"]

/-- The truth value that an integer stands for. -/
def truthOfInt (n : Int) : Checked Bool :=
  if n = 0 then .valid false else if n = 1 then .valid true else fault .truthText

/-- A truth value: also zero or one, or a word for it in ASCII letters of any case. -/
def truth : Shape Bool
  | .bool b => .valid b
  | .int n => if -wordLimit ≤ n && n < wordLimit then truthOfInt n else fault .truth
  | .float x =>
    match wordOf? (.ofFloat x) with
    | .ok n => truthOfInt n
    | .error _ => fault .truth
  | .text s =>
    let word := s.toLower
    if truthWords.contains word then .valid true
    else if falsehoodWords.contains word then .valid false
    else fault .truthText
  | _ => fault .truth

/-- A moment that a number denotes. -/
def momentOfNumber : Except DateFault Moment → Checked Moment
  | .ok t => .valid t
  | .error f => fault (.momentNumber f)

/-- A moment that a text denotes. The calendar has no year 0, though texts can name it. -/
def momentOfText : Except DateFault Moment → Checked Moment
  | .ok t => .valid t
  | .error .noYear => fault (.momentNumber .noYear)
  | .error f => fault (.momentText f)

/-- A moment: also its text, or the seconds since 1970. -/
def moment : Shape Moment
  | .moment t => .valid t
  | .text s => momentOfText (Calendar.readMoment s)
  | .int n =>
    match Number.floatOfInt? n with
    | some _ => momentOfNumber (Calendar.ofUnix n)
    | none => fault .moment
  | .float x => momentOfNumber (Calendar.ofUnixFloat x)
  | .nan => momentOfNumber (.error .notANumber)
  | _ => fault .moment

/-- One of several words, by the function that knows them. -/
def word {α : Type} (words : List String) (ofName? : String → Option α) : Shape α
  | .text s =>
    match ofName? s with
    | some a => .valid a
    | none => fault (.choice words)
  | _ => fault (.choice words)

/-! ### Containers -/

variable {α : Type}

/-- What may be absent in the form of null. -/
def nullable (shape : Shape α) : Shape (Option α)
  | .null => .valid none
  | d => (shape d).map some

/-- Items of one shape, from a position on. -/
def items (shape : Shape α) : (position : Nat) → List Datum → Checked (List α)
  | _, [] => .valid []
  | position, d :: rest =>
    (List.cons <$> (shape d).within (toString position)) <*> items shape (position + 1) rest

/-- A list, or a tuple, of items of one shape. -/
def list (shape : Shape α) : Shape (List α)
  | .list ds => items shape 0 ds
  | .tuple ds => items shape 0 ds
  | _ => fault .list

/-- Fields of one shape. -/
def fieldsOf (shape : Shape α) : List (String × Datum) → Checked (Entries String α)
  | [] => .valid []
  | (key, d) :: rest =>
    ((fun a more => (key, a) :: more) <$> (shape d).within key) <*> fieldsOf shape rest

/-- An object whose fields have one shape. -/
def mapping (shape : Shape α) : Shape (Entries String α)
  | .object fields => fieldsOf shape fields
  | _ => fault .mapping

/-- A pair of values of one shape. -/
def pair (shape : Shape α) : Shape (α × α) := fun d =>
  let read (ds : List Datum) : Checked (α × α) :=
    match ds with
    | [] => .faulty [⟨["0"], .missing⟩, ⟨["1"], .missing⟩]
    | [a] => (Prod.mk <$> (shape a).within "0") <*> .faulty [⟨["1"], .missing⟩]
    | [a, b] => (Prod.mk <$> (shape a).within "0") <*> (shape b).within "1"
    | _ => fault (.tupleLength 2 ds.length)
  match d with
  | .list ds => read ds
  | .tuple ds => read ds
  | _ => fault .tuple

/-! ### Records -/

/-- A field that has to be present. -/
def field (name : String) (shape : Shape α) : FieldsShape α := fun fields =>
  match fields.get? name with
  | some d => (shape d).within name
  | none => .faulty [⟨[name], .missing⟩]

/-- A field that has a default. -/
def fieldOr (name : String) (shape : Shape α) (default : α) : FieldsShape α := fun fields =>
  match fields.get? name with
  | some d => (shape d).within name
  | none => .valid default

/-- A record read from the fields of an object. -/
def record (name : String) (shape : FieldsShape α) : Shape α
  | .object fields => shape fields
  | _ => fault (.record name)

/-- A value that has to pass a test of the field's own. -/
def refined {β : Type} (shape : Shape α) (test : α → Except Cause β) : Shape β := fun d =>
  (shape d).andThen fun a =>
    match test a with
    | .ok b => .valid b
    | .error cause => fault cause

/-- An integer with a lower bound. -/
def integerFrom (bound : Int) : Shape Int :=
  refined integer fun n => if bound ≤ n then .ok n else .error (.atLeast bound)

end Promptuary.Schema
