import Promptuary.Pattern.Match
import Promptuary.Template.Compile

/-!
Checking what callers bind: a value against the declaration of a variable, all bindings against a
template, and a template against itself. Every problem found is collected; only three causes can
cut a check short: a pattern that is broken off, an integer of a limit or an option that is too
large to be written, and a least length for which there is no text.
-/

namespace Promptuary

/-- Why there is no text of a length. -/
inductive LengthError where
  /-- The length is too large to be the length of anything. -/
  | uncountable
  /-- There is no room for so many characters. -/
  | noRoom
deriving DecidableEq, Repr

/-- The wording of a length error; that there is no room is said without words. -/
def LengthError.message : LengthError → String
  | .uncountable => "Python int too large to convert to C ssize_t"
  | .noRoom => ""

/-- What cuts a check short. -/
inductive CheckError where
  | pattern (cause : Pattern.Break)
  | integer (cause : Number.IntegerError)
  /-- A text cannot be made as long as it has to be. -/
  | length (cause : LengthError)
deriving DecidableEq, Repr

/-- The wording of a check error. -/
def CheckError.message : CheckError → String
  | .pattern cause => cause.message
  | .integer cause => cause.message
  | .length cause => cause.message

/-- The kind of value that a type stands for. -/
def VariableType.kind : VariableType → Kind
  | .string => .string
  | .number => .number
  | .boolean => .boolean
  | .array => .array
  | .object => .object

/-- A word with its article. -/
def withArticle (word : String) : String :=
  match word.toList with
  | c :: _ => (if c ∈ ['a', 'e', 'i', 'o', 'u'] then "an " else "a ") ++ word
  | [] => "a "

/-! ### One value -/

/-- Whether a value has the type of a variable; what is not a number has none. -/
def VariableType.admits (type : VariableType) (v : Value) : Bool :=
  v.kind = type.kind &&
    match v with
    | .number n => !n.isNaN
    | _ => true

/-- The complaint about a value of the wrong type. -/
def typeProblems (x : Variable) (v : Value) : List String :=
  if x.type.admits v then []
  else [s!"Variable '{x.name}' must be {withArticle x.type.name}, got {v.kind.name}"]

/-- The complaint about a text that a pattern does not match, or about the pattern. -/
def patternProblems (name : String) (s : String) : (pattern : Option String) →
    Except CheckError (List String)
  | none => .ok []
  | some pattern =>
    if pattern.isEmpty then .ok []
    else
      match Pattern.search pattern s with
      | .ok true => .ok []
      | .ok false => .ok [s!"Variable '{name}' does not match pattern: {pattern}"]
      | .error (.malformed fault position) =>
        .ok [s!"Variable '{name}' has an invalid pattern: {fault.describe pattern position}"]
      | .error (.broken cause) => .error (.pattern cause)

/-- The complaint about a length that violates a limit, if there is one, which has to be written
then. -/
def limitProblems (name words : String) (violates : Int → Bool) : (limit : Option Int) →
    Except CheckError (List String)
  | none => .ok []
  | some limit =>
    if violates limit then
      match Number.writeInt limit with
      | .ok shown => .ok [s!"Variable '{name}' must be {words} {shown} characters"]
      | .error e => .error (.integer e)
    else .ok []

/-- The complaints about a text that is too short or too long. -/
def lengthProblems (name : String) (s : String) (c : Constraints) :
    Except CheckError (List String) := do
  return (← limitProblems name "at least" ((s.length : Int) < ·) c.minLength) ++
    (← limitProblems name "no more than" (· < (s.length : Int)) c.maxLength)

/-- The complaints about a text. -/
def textProblems (name : String) (s : String) (c : Constraints) :
    Except CheckError (List String) := do
  return (← patternProblems name s c.pattern) ++ (← lengthProblems name s c)

/-- The complaints about a number that is too small or too large. -/
def boundProblems (name : String) (n : Number.Quantity) (c : Constraints) : List String :=
  (match c.min with
    | some least =>
      if n.lt (.float least) then
        [s!"Variable '{name}' must be at least {Number.floatText .message least}"]
      else []
    | none => []) ++
  match c.max with
    | some most =>
      if (Number.Quantity.float most).lt n then
        [s!"Variable '{name}' must be no more than {Number.floatText .message most}"]
      else []
    | none => []

/-- The complaint about a datum that is none of the options. -/
def optionProblems (name : String) (d : Datum) : (options : Option (List Datum)) →
    Except CheckError (List String)
  | none => .ok []
  | some options =>
    if options.any d.same then .ok []
    else
      match options.mapM Datum.message with
      | .ok shown => .ok [s!"Variable '{name}' must be one of: " ++ ", ".intercalate shown]
      | .error e => .error (.integer e)

/-- The complaints about a text or a number that violates constraints; other values have no limits of
their own. -/
def valueProblems (name : String) (v : Value) (c : Constraints) :
    Except CheckError (List String) :=
  match v with
  | .string s => textProblems name s c
  | .number n => .ok (boundProblems name n c)
  | _ => .ok []

/-- The complaints about a datum that violates constraints. -/
def constraintProblems (name : String) (d : Datum) (c : Constraints) :
    Except CheckError (List String) := do
  return (← valueProblems name (.of d) c) ++ (← optionProblems name d c.options)

/-- The complaints about a datum bound to a variable. -/
def Variable.check (x : Variable) (d : Datum) (constraints : Bool := true) :
    Except CheckError (List String) := do
  let wrongType := typeProblems x (.of d)
  match if constraints then x.constraints else none with
  | none => return wrongType
  | some c => return wrongType ++ (← constraintProblems x.name d c)

/-! ### All bindings -/

/-- What was found while checking a template and its bindings. -/
structure Verdict where
  isValid : Bool
  errors : List String
  warnings : List String := []
  missing : List String := []
  unused : List String := []
  compiled : Option String := none

/-- Names that a template reads and does not declare. -/
def Template.undeclared (t : Template) : List String :=
  (extractVariables t.body).filter fun name => !(t.declarations.any (·.name = name))

/-- Names that a template declares and does not read. -/
def Template.unread (t : Template) : List String :=
  (t.declarations.map (·.name)).filter fun name => !((extractVariables t.body).contains name)

/-- Names that a template requires and that are neither bound nor have a default. -/
def Template.unbound (t : Template) (bindings : Fields) : List String :=
  (t.declarations.filter fun x => x.required && !bindings.has x.name && !x.hasDefault).map (·.name)

/-- The warnings about a template's names. -/
def Template.warnings (t : Template) : List String :=
  t.undeclared.map (fun name => s!"Variable '{name}' used in template but not defined in schema") ++
    t.unread.map fun name => s!"Variable '{name}' defined but not used in template"

/-- The complaints about all bound variables, in the order of declaration, and what cut them
short. -/
def checkBound (bindings : Fields) (constraints : Bool) :
    List Variable → List String × Option CheckError
  | [] => ([], none)
  | x :: rest =>
    match bindings.get? x.name with
    | none => checkBound bindings constraints rest
    | some d =>
      match x.check d constraints with
      | .error e => ([], some e)
      | .ok problems =>
        let (others, stop) := checkBound bindings constraints rest
        (problems ++ others, stop)

/-- Checks bindings against a template. The compiled text is given when the template compiles. -/
def Template.validate (o : CompileOptions) (t : Template) (bindings : Fields)
    (constraints : Bool := true) : Verdict :=
  let missing := t.unbound bindings
  let required := missing.map fun name => s!"Required variable '{name}' is missing"
  let (problems, stop) := checkBound bindings constraints t.declarations
  let errors := required ++ problems
  let found : Verdict :=
    { isValid := false, errors, warnings := t.warnings, missing, unused := t.unread }
  match stop with
  | some e => { found with errors := errors ++ ["Validation error: " ++ e.message] }
  | none =>
    match t.compile o (.ofFields bindings) with
    | .ok text => { found with isValid := errors.isEmpty, compiled := some text }
    | .error e => { found with errors := errors ++ ["Compilation error: " ++ e.message] }

/-! ### Templates -/

/-- How many characters are left of a text of some length up to a limit; a negative limit leaves
out that many at the end. -/
def keptLength (length : Nat) (limit : Int) : Nat :=
  if 0 ≤ limit then min length limit.toNat else length - limit.natAbs

/-- The text that stands in for a binding, filled up to the least length and then cut at the
greatest. -/
def filledText (c : Constraints) : String :=
  let plain := "test_value".toList
  let filled := max plain.length (c.minLength.getD 0).toNat
  let length := match c.maxLength with
    | some most => keptLength filled most
    | none => filled
  String.ofList (plain.take length ++ List.replicate (length - plain.length) 'x')

/-- Lengths are less than this. -/
def lengthBound : Int := Number.twoTo 63

/-- There is room for texts of up to this many characters. -/
def roomyLength : Int := Number.twoTo 36

/-- Why a text cannot be filled up to a length. -/
def fillError? (least : Int) : Option LengthError :=
  if lengthBound ≤ least then some .uncountable
  else if roomyLength < least then some .noRoom
  else none

/-- The text that stands in for a binding, if it can be made; there has to be room for it before it
is cut. -/
def standInText (c : Constraints) : Except LengthError String :=
  match c.minLength.bind fillError? with
  | some e => .error e
  | none => .ok (filledText c)

/-- The number that stands in for a binding. -/
def standInNumber (c : Constraints) : Datum :=
  match c.min, c.max with
  | some least, _ => .float least
  | none, some most => if most < 0 then .float most else .int 0
  | none, none => .int 0

/-- What stands in for a binding when a template is checked against itself: the default, the first
option, or something of the declared type within the limits. -/
def Variable.standIn (x : Variable) : Except CheckError Datum :=
  match x.default with
  | some d => .ok d
  | none =>
    let c := x.constraints.getD {}
    match c.options with
    | some (option :: _) => .ok option
    | _ =>
      match x.type with
      | .string => ((standInText c).map Datum.text).mapError .length
      | .number => .ok (standInNumber c)
      | .boolean => .ok (.bool true)
      | .array => .ok (.list [])
      | .object => .ok (.object [])

/-- The stand-ins of a template's variables. -/
def Template.standIns (t : Template) : Except CheckError Fields :=
  let named := t.declarations.filter (!·.name.isEmpty)
  (named.mapM fun (x : Variable) => x.standIn.map (x.name, ·)).map .ofPairs

/-- The complaints about a template's variables, given the names declared before. -/
def variableProblems (seen : List String) : List Variable → Except CheckError (List String)
  | [] => .ok []
  | x :: rest =>
    if Text.isAllBlank x.name then do
      return "Variable name is required" :: (← variableProblems seen rest)
    else do
      let duplicate :=
        if seen.contains x.name then [s!"Duplicate variable name: {x.name}"] else []
      let default ← match x.default with
        | some d => x.check d
        | none => pure []
      return duplicate ++ default.map ("Default value invalid: " ++ ·) ++
        (← variableProblems (x.name :: seen) rest)

/-- Checks a template against itself: its texts, its variables, and how it compiles with stand-ins
where undeclared names are allowed. -/
def Template.validateSelf (o : CompileOptions) (t : Template) : Except CheckError Verdict := do
  let required (what text : String) : List String :=
    if Text.isAllBlank text then [s!"Template {what} is required"] else []
  let own := required "name" t.name ++ required "content" t.body ++ required "category" t.category
  let problems ← variableProblems [] t.declarations
  let verdict := t.validate { o with strict := false } (← t.standIns) false
  let errors := own ++ problems ++ verdict.errors
  return { verdict with isValid := errors.isEmpty, errors }

end Promptuary
