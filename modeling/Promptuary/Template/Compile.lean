import Promptuary.Template.Basic
import Promptuary.Template.Token
import Promptuary.Template.Value
import Promptuary.Text.Entity
import Promptuary.Text.Layout

/-!
Compiling a template in three passes over its tokens. Conditionals keep or drop the tokens up to
the first closing tag, loops repeat them, and variables become text. Blocks do not nest in blocks of
their kind: an opening tag inside such a block, and one that is never closed, stands for itself.
-/

namespace Promptuary

/-- What a template's names are bound to. -/
abbrev Bindings := String → Option Value

/-- The bindings of an object's fields. -/
def Bindings.ofFields (fields : Fields) : Bindings := fun name => (fields.get? name).map Value.of

namespace Token

/-- The tokens before and after the first tag of a kind. -/
def splitAtTag (wanted : Tag) : List Token → Option (List Token × List Token)
  | [] => none
  | t :: rest =>
    match t with
    | .tag other source =>
      if other = wanted then some ([], rest)
      else (splitAtTag wanted rest).map fun (before, after) => (.tag other source :: before, after)
    | .text source =>
      (splitAtTag wanted rest).map fun (before, after) => (.text source :: before, after)

theorem length_of_splitAtTag {wanted : Tag} {ts before after : List Token}
    (h : splitAtTag wanted ts = some (before, after)) :
    before.length + after.length + 1 = ts.length := by
  induction ts generalizing before with
  | nil => simp [splitAtTag] at h
  | cons t rest ih =>
    unfold splitAtTag at h
    split at h
    · split at h
      · simp only [Option.some.injEq, Prod.mk.injEq] at h
        obtain ⟨rfl, rfl⟩ := h
        simp
      · obtain ⟨⟨x, y⟩, hx, hy⟩ := Option.map_eq_some_iff.1 h
        simp only [Prod.mk.injEq] at hy
        obtain ⟨rfl, rfl⟩ := hy
        have := ih hx
        simp only [List.length_cons]
        omega
    · obtain ⟨⟨x, y⟩, hx, hy⟩ := Option.map_eq_some_iff.1 h
      simp only [Prod.mk.injEq] at hy
      obtain ⟨rfl, rfl⟩ := hy
      have := ih hx
      simp only [List.length_cons]
      omega

/-! ### Conditionals -/

/-- An opening tag of a conditional as text, any other token as it is. -/
def closeIf : Token → Token
  | .tag (.ifOpen _) source => .text source
  | t => t

/-- The first pass: the tokens that conditionals keep. -/
def conditionals (b : Bindings) (ts : List Token) : Except EvalError (List Token) :=
  match ts with
  | [] => .ok []
  | .tag (.ifOpen name) source :: rest =>
    match _h : splitAtTag .ifClose rest with
    | none => do return .text source :: (← conditionals b rest)
    | some (body, after) => do
      let kept ← ((b name).getD .null).isTruthy
      return (if kept then body.map closeIf else []) ++ (← conditionals b after)
  | .tag .ifClose source :: rest => do return .text source :: (← conditionals b rest)
  | t :: rest => do return t :: (← conditionals b rest)
termination_by ts.length
decreasing_by
  all_goals simp only [List.length_cons]
  all_goals first
    | omega
    | have hlen := length_of_splitAtTag _h
      omega

/-! ### Loops -/

/-- An opening tag of a loop as text, any other token as it is. -/
def closeEach : Token → Token
  | .tag (.eachOpen _) source => .text source
  | t => t

/-- The text of a loop item for the element at a position of several. -/
def loopText (count position : Nat) (element : String) : LoopItem → List Char
  | .this => element.toList
  | .index => Number.natDigits position
  | .first => (if position = 0 then "true" else "false").toList
  | .last => (if position + 1 = count then "true" else "false").toList

/-- A token of a loop's body for one element. -/
def fill (count position : Nat) (element : String) : Token → Token
  | .tag (.loopItem item) _ => .text (loopText count position element item)
  | t => t

/-- The body of a loop once for each element, from a position on. -/
def unroll (body : List Token) (count : Nat) : (position : Nat) → List String → List Token
  | _, [] => []
  | position, element :: rest =>
    body.map (fill count position element) ++ unroll body count (position + 1) rest

/-- The second pass: the tokens that loops repeat. -/
def loops (b : Bindings) (ts : List Token) : Except EvalError (List Token) :=
  match ts with
  | [] => .ok []
  | .tag (.eachOpen name) source :: rest =>
    match _h : splitAtTag .eachClose rest with
    | none => do return .text source :: (← loops b rest)
    | some (body, after) => do
      let elements ← ((b name).getD .null).items.mapM Value.render
      return unroll (body.map closeEach) elements.length 0 elements ++ (← loops b after)
  | .tag .eachClose source :: rest => do return .text source :: (← loops b rest)
  | t :: rest => do return t :: (← loops b rest)
termination_by ts.length
decreasing_by
  all_goals simp only [List.length_cons]
  all_goals first
    | omega
    | have hlen := length_of_splitAtTag _h
      omega

/-! ### Variables -/

/-- What a variable's tag becomes: text, or a name that is missing. -/
inductive Substitute where
  | text (cs : List Char)
  | missing (name : String)

/-- The value of a name: its binding, or else the default of its declaration. -/
def resolve (b : Bindings) (declared : String → Option Variable) (name : String) : Option Value :=
  match b name with
  | some v => some v
  | none => (declared name >>= Variable.default).map Value.of

/-- The text of a value, or of one of its properties. -/
def renderAt (v : Value) : (property : Option String) → Except EvalError String
  | none => v.render
  | some property => do (← v.get property).render

/-- What a token becomes in the third pass. -/
def substitute (o : CompileOptions) (b : Bindings) (declared : String → Option Variable) :
    Token → Except EvalError Substitute
  | .tag (.variable name property) _ =>
    match resolve b declared name with
    | some v => do return .text (← renderAt v property).toList
    | none => .ok (if o.strict then .missing name else .text o.missingText.toList)
  | t => .ok (.text t.source)

end Token

/-- Why a template could not be compiled. -/
inductive CompileError where
  /-- Names without binding and default. -/
  | missing (names : List String)
  | evaluation (cause : EvalError)
deriving DecidableEq, Repr

namespace CompileError

/-- The wording of a compile error. -/
def message : CompileError → String
  | .missing names => "Missing required variable: " ++ ", ".intercalate names
  | .evaluation cause => "Failed to compile template: " ++ cause.message

/-- The names that a compile error says are missing. -/
def missingNames : CompileError → List String
  | .missing names => names
  | .evaluation _ => []

end CompileError

open Token in
/-- The text of a template before its layout is put in order and its markup escaped. -/
def expand (o : CompileOptions) (b : Bindings) (declared : String → Option Variable)
    (ts : List Token) : Except CompileError (List Char) :=
  match conditionals b ts >>= loops b >>= (·.mapM (substitute o b declared)) with
  | .error e => .error (.evaluation e)
  | .ok parts =>
    let missing := (parts.filterMap fun
      | .missing name => some name
      | .text _ => none).eraseDups
    if missing.isEmpty then
      .ok (parts.flatMap fun
        | .text cs => cs
        | .missing _ => [])
    else .error (.missing missing)

/-- A compiled text with its layout put in order and its markup escaped, as the options say. -/
def CompileOptions.finish (o : CompileOptions) (cs : List Char) : List Char :=
  let cs := if o.keepLayout then cs else Text.tidy cs
  if o.escape then Text.escapeMarkup cs else cs

/-- Compiles a template against bindings. -/
def Template.compile (o : CompileOptions) (t : Template) (b : Bindings) :
    Except CompileError String :=
  (expand o b t.declared? (Token.ofText t.body)).map fun cs => String.ofList (o.finish cs)

end Promptuary
