import Promptuary.Json.Writer
import Promptuary.Text.Digit

/-!
Values that templates read: a datum seen as one of six kinds, with its truth, its properties, its
items and its rendered text.
-/

namespace Promptuary

open Number (Quantity IntegerError)

/-- The kinds of value. -/
inductive Kind where
  | string | number | boolean | array | object | null
deriving DecidableEq, Repr

/-- The name of a kind. -/
def Kind.name : Kind → String
  | .string => "string"
  | .number => "number"
  | .boolean => "boolean"
  | .array => "array"
  | .object => "object"
  | .null => "null"

/-- A value that a template reads. -/
inductive Value where
  | null
  | boolean (b : Bool)
  | number (n : Quantity)
  | string (s : String)
  | array (items : List Datum)
  | object (fields : Fields)

/-- Why a value could not be evaluated. -/
inductive EvalError where
  /-- The truth of an integer beyond the range of floats was asked for. -/
  | beyondFloat
  /-- A property named by digits, or an integer to be rendered, is no numeral within the limit. -/
  | integer (cause : IntegerError)
  /-- A list or an object to be rendered lies in too many others. -/
  | tooDeep
deriving DecidableEq, Repr

/-- The wording of an evaluation error. -/
def EvalError.message : EvalError → String
  | .beyondFloat => Number.beyondFloat
  | .integer cause => cause.message
  | .tooDeep => Json.WriteError.tooDeep.message

namespace Value

/-- The value of a datum. -/
def of : Datum → Value
  | .null => .null
  | .bool b => .boolean b
  | .int n => .number (.int n)
  | .float x => .number (.float x)
  | .nan => .number (.float Number.notANumber)
  | .text s => .string s
  | .list items => .array items
  | .tuple items => .array items
  | .object fields => .object fields
  | .moment t => .string t.plain
  | .usage u => .object [("prompt", .int u.prompt), ("completion", .int u.completion),
      ("total", .int u.total)]

/-- The kind of a value. -/
def kind : Value → Kind
  | .null => .null
  | .boolean _ => .boolean
  | .number _ => .number
  | .string _ => .string
  | .array _ => .array
  | .object _ => .object

/-- The truth of a number: neither zero nor undefined. -/
def numberTruth : Quantity → Except EvalError Bool
  | .int n =>
    if n = 0 then .ok false
    else
      match Number.floatOfInt? n with
      | some _ => .ok true
      | none => .error .beyondFloat
  | .float x => .ok (!(x == 0) && !x.isNaN)

/-- The truth of a value: null, false, zero and the empty text are not true. -/
def isTruthy : Value → Except EvalError Bool
  | .null => .ok false
  | .boolean b => .ok b
  | .number n => numberTruth n
  | .string s => .ok (s ≠ "")
  | .array _ => .ok true
  | .object _ => .ok true

/-- Whether a property is a position in an array. -/
def isPosition (property : String) : Bool :=
  !property.isEmpty && property.toList.all Text.isDigit

/-- A property: a field of an object, an item of an array by its position. Whatever has no
properties is its own. -/
def get (property : String) : Value → Except EvalError Value
  | .object fields => .ok ((fields.get? property).elim .null of)
  | .array items =>
    if isPosition property then
      match Number.readDigits property with
      | .ok i => .ok ((items[i]?).elim .null of)
      | .error e => .error (.integer e)
    else .ok (.array items)
  | v => .ok v

/-- The items of an array. -/
def items : Value → List Value
  | .array items => items.map of
  | _ => []

/-- An object or array as compact JSON. -/
def renderJson (d : Datum) : Except EvalError String :=
  match Json.print .inline d with
  | .ok s => .ok s
  | .error (.integer e) => .error (.integer e)
  | .error .tooDeep => .error .tooDeep
  | .error (.foreign _) => .ok ""

/-- The text of a value in a prompt. -/
def render : Value → Except EvalError String
  | .null => .ok ""
  | .boolean b => .ok (if b then "true" else "false")
  | .number n => n.render.mapError .integer
  | .string s => .ok s
  | .array items => renderJson (.list items)
  | .object fields => renderJson (.object fields)

end Value

end Promptuary
