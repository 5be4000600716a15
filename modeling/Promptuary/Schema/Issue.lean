import Promptuary.Calendar.Iso

/-!
What is wrong with data that should have a given shape. An issue names the place, as the path of
field names and positions that leads to it, and the cause; the wording of all causes is here.
-/

namespace Promptuary.Schema

/-- What is wrong at one place. -/
inductive Cause where
  /-- A field without default is absent. -/
  | missing
  | text
  | integer
  /-- A text holds no integer. -/
  | integerText
  /-- A text or number is beyond the integers that are accepted. -/
  | integerSize
  /-- A number has a fractional part. -/
  | fraction
  /-- A number is infinite or undefined where an integer is expected. -/
  | notFinite
  | number
  /-- A text holds no number. -/
  | numberText
  | truth
  /-- A text or integer stands for no truth value. -/
  | truthText
  | moment
  /-- A number denotes no moment. -/
  | momentNumber (fault : Calendar.DateFault)
  /-- A text denotes no moment. -/
  | momentText (fault : Calendar.DateFault)
  | list
  | mapping
  | tuple
  /-- More items than a tuple may have. -/
  | tupleLength (most actual : Nat)
  /-- No object that a record could be read from. -/
  | record (name : String)
  /-- None of the words that are allowed. -/
  | choice (words : List String)
  | atLeast (bound : Int)
  /-- Refused for a reason of the field's own. -/
  | refused (reason : String)
deriving DecidableEq, Repr

/-- Words between quotes, the last one after an `or`. -/
def alternatives (words : List String) : String :=
  let quoted := words.map fun word => "'" ++ word ++ "'"
  match quoted.getLast?, quoted.dropLast with
  | none, _ => ""
  | some last, [] => last
  | some last, others => ", ".intercalate others ++ " or " ++ last

/-- The wording of a cause. -/
def Cause.message : Cause → String
  | .missing => "Field required"
  | .text => "Input should be a valid string"
  | .integer => "Input should be a valid integer"
  | .integerText => "Input should be a valid integer, unable to parse string as an integer"
  | .integerSize => "Unable to parse input string as an integer, exceeded maximum size"
  | .fraction => "Input should be a valid integer, got a number with a fractional part"
  | .notFinite => "Input should be a finite number"
  | .number => "Input should be a valid number"
  | .numberText => "Input should be a valid number, unable to parse string as a number"
  | .truth => "Input should be a valid boolean"
  | .truthText => "Input should be a valid boolean, unable to interpret input"
  | .moment => "Input should be a valid datetime"
  | .momentNumber fault => "Input should be a valid datetime, " ++ fault.message
  | .momentText fault => "Input should be a valid datetime or date, " ++ fault.message
  | .list => "Input should be a valid list"
  | .mapping => "Input should be a valid dictionary"
  | .tuple => "Input should be a valid tuple"
  | .tupleLength most actual =>
    s!"Tuple should have at most {most} items after validation, not {actual}"
  | .record name => "Input should be a valid dictionary or instance of " ++ name
  | .choice words => "Input should be " ++ alternatives words
  | .atLeast bound => s!"Input should be greater than or equal to {bound}"
  | .refused reason => "Value error, " ++ reason

/-- A cause with its place. -/
structure Issue where
  path : List String
  cause : Cause
deriving DecidableEq, Repr

/-- An issue one step further out. -/
def Issue.within (step : String) (i : Issue) : Issue := { i with path := step :: i.path }

/-- The wording of an issue: the place, with points between its steps, and the cause. -/
def Issue.message (i : Issue) : String := ".".intercalate i.path ++ ": " ++ i.cause.message

/-- Several issues as one text. -/
def messageOfAll (issues : List Issue) : String := "; ".intercalate (issues.map Issue.message)

end Promptuary.Schema
