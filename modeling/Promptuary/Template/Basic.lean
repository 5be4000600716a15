import Promptuary.Datum.Basic

/-!
Templates and what they declare: a text with tags, the variables it expects, and the record that the
store keeps of it.
-/

namespace Promptuary

/-- The types that a variable can be declared with. -/
inductive VariableType where
  | string | number | boolean | array | object
deriving DecidableEq, Repr

namespace VariableType

/-- All types, in the order in which messages name them. -/
def all : List VariableType := [.string, .number, .boolean, .array, .object]

/-- The name of a type. -/
def name : VariableType → String
  | .string => "string"
  | .number => "number"
  | .boolean => "boolean"
  | .array => "array"
  | .object => "object"

/-- The type with a name. -/
def ofName? (s : String) : Option VariableType := all.find? (·.name = s)

@[simp] theorem ofName?_name (t : VariableType) : ofName? t.name = some t := by
  cases t <;> rfl

end VariableType

/-- What a bound value has to satisfy besides its type. -/
structure Constraints where
  pattern : Option String := none
  minLength : Option Int := none
  maxLength : Option Int := none
  min : Option Float := none
  max : Option Float := none
  options : Option (List Datum) := none

/-- A variable that a template declares. -/
structure Variable where
  name : String
  type : VariableType := .string
  required : Bool := true
  description : Option String := none
  default : Option Datum := none
  constraints : Option Constraints := none

/-- Whether a variable has a default. -/
def Variable.hasDefault (v : Variable) : Bool := v.default.isSome

/-- A template as the store keeps it. -/
structure Template where
  id : String
  name : String
  description : String := ""
  category : String
  body : String
  declarations : List Variable := []
  version : String := "1.0.0"
  isActive : Bool := true
  createdAt : Calendar.Moment
  updatedAt : Calendar.Moment
  createdBy : Option String := none
  tags : List String := []
  metadata : Fields := []

/-- The first declaration of a name. -/
def Template.declared? (t : Template) (name : String) : Option Variable :=
  t.declarations.find? (·.name = name)

/-- How templates are compiled. -/
structure CompileOptions where
  /-- Whether a name without binding and default is an error. -/
  strict : Bool := true
  /-- What stands for such a name otherwise. -/
  missingText : String := ""
  /-- Whether the layout of the text is kept. -/
  keepLayout : Bool := false
  /-- Whether markup characters are escaped. -/
  escape : Bool := true
deriving DecidableEq, Repr

end Promptuary
