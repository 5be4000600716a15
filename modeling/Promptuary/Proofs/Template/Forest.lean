import Promptuary.Template.Compile

/-!
Well-nested templates as forests, with their source and their meaning.

A forest is a row of text pieces, variables, loop items and blocks. Which blocks may still stand in
it is part of its type, so a block never lies in a block of its kind, at any depth. `Forest.source`
prints a forest and `Forest.meaning` evaluates it by recursion, without tokens and without passes.
-/

namespace Promptuary

/-! ### Pieces of source -/

/-- A stretch of text without opening braces. -/
structure Stretch where
  chars : List Char
  free : '\x7b' ∉ chars

/-- Blanks, possibly none. -/
structure Blanks where
  chars : List Char
  blank : chars.all Text.isBlank = true

/-- A word of at least one character. -/
structure Word where
  chars : List Char
  nonempty : chars ≠ []
  word : chars.all Text.isWord = true

/-- The name that a word spells. -/
def Word.name (w : Word) : String := String.ofList w.chars

/-- A variable's tag: a name, and perhaps a property. The name of the loop's own element is no
variable unless a property follows it. -/
structure Reference where
  word : Word
  property : Option Word := none
  free : property = none → word.chars ≠ ['t', 'h', 'i', 's']

/-- The property of a variable's tag, with the point before it. -/
def Reference.tail (r : Reference) : List Char :=
  match r.property with
  | none => []
  | some p => '.' :: p.chars

/-- What stands between the braces of a variable's tag. -/
def Reference.inner (r : Reference) : List Char := r.word.chars ++ r.tail

/-- An opening tag: blanks, a keyword, at least one blank, a name and blanks. -/
structure Opening where
  before : Blanks
  gap : Blanks
  gapped : gap.chars ≠ []
  word : Word
  after : Blanks

/-- What stands between the braces of an opening tag. -/
def Opening.inner (keyword : List Char) (o : Opening) : List Char :=
  o.before.chars ++ keyword ++ o.gap.chars ++ o.word.chars ++ o.after.chars

/-- A closing tag: a keyword with blanks around it. -/
structure Closing where
  before : Blanks
  after : Blanks

/-- What stands between the braces of a closing tag. -/
def Closing.inner (keyword : List Char) (c : Closing) : List Char :=
  c.before.chars ++ keyword ++ c.after.chars

/-- An opening tag with no more blanks than it needs. -/
def Opening.plain (w : Word) : Opening where
  before := ⟨[], rfl⟩
  gap := ⟨[' '], rfl⟩
  gapped := by decide
  word := w
  after := ⟨[], rfl⟩

/-- A closing tag without blanks. -/
def Closing.plain : Closing := ⟨⟨[], rfl⟩, ⟨[], rfl⟩⟩

/-- A tag's source: what stands inside, between double braces. -/
def braced (inner : List Char) : List Char := '\x7b' :: '\x7b' :: inner ++ ['\x7d', '\x7d']

/-! ### Forests -/

/-- A row of template nodes in which conditionals and loops may occur as far as `ifs` and `loops`
say. -/
inductive Forest : (ifs loops : Bool) → Type where
  | nil {ifs loops : Bool} : Forest ifs loops
  | text {ifs loops : Bool} (s : Stretch) (rest : Forest ifs loops) : Forest ifs loops
  | reference {ifs loops : Bool} (r : Reference) (rest : Forest ifs loops) : Forest ifs loops
  | item {ifs loops : Bool} (i : LoopItem) (rest : Forest ifs loops) : Forest ifs loops
  | conditional {loops : Bool} (o : Opening) (body : Forest false loops) (c : Closing)
      (rest : Forest true loops) : Forest true loops
  | loop {ifs : Bool} (o : Opening) (body : Forest ifs false) (c : Closing)
      (rest : Forest ifs true) : Forest ifs true

namespace Forest

variable {ifs loops : Bool}

/-- The printed form of a forest. -/
def source {ifs loops : Bool} : Forest ifs loops → List Char
  | .nil => []
  | .text s rest => s.chars ++ rest.source
  | .reference r rest => braced r.inner ++ rest.source
  | .item i rest => braced i.name.toList ++ rest.source
  | .conditional o body c rest =>
    braced (o.inner ['#', 'i', 'f']) ++ body.source ++ braced (c.inner ['/', 'i', 'f']) ++
      rest.source
  | .loop o body c rest =>
    braced (o.inner ['#', 'e', 'a', 'c', 'h']) ++ body.source ++
      braced (c.inner ['/', 'e', 'a', 'c', 'h']) ++ rest.source

/-- The names that the conditionals of a forest ask for. -/
def conditions {ifs loops : Bool} : Forest ifs loops → List String
  | .nil => []
  | .text _ rest => rest.conditions
  | .reference _ rest => rest.conditions
  | .item _ rest => rest.conditions
  | .conditional o body _ rest => o.word.name :: body.conditions ++ rest.conditions
  | .loop _ body _ rest => body.conditions ++ rest.conditions

end Forest

/-! ### Meaning -/

/-- What a part of a template yields: its text, and the names that are missing. -/
structure Yield where
  text : List Char := []
  missing : List String := []

namespace Yield

/-- One part after another. -/
def append (x y : Yield) : Yield := ⟨x.text ++ y.text, x.missing ++ y.missing⟩

instance : Append Yield := ⟨append⟩

@[simp] theorem text_append (x y : Yield) : (x ++ y).text = x.text ++ y.text := rfl
@[simp] theorem missing_append (x y : Yield) : (x ++ y).missing = x.missing ++ y.missing := rfl

@[ext] theorem ext {x y : Yield} (text : x.text = y.text) (missing : x.missing = y.missing) :
    x = y := by
  cases x
  cases y
  simp_all

theorem append_assoc (x y z : Yield) : x ++ y ++ z = x ++ (y ++ z) := by
  ext1 <;> simp

@[simp] theorem nil_append (x : Yield) : ({} : Yield) ++ x = x := by
  ext1 <;> simp

/-- One part after another, if both can be evaluated. -/
def both (x y : Except EvalError Yield) : Except EvalError Yield := do return (← x) ++ (← y)

@[simp] theorem both_nil (y : Except EvalError Yield) : both (.ok {}) y = y := by
  cases y with
  | error => rfl
  | ok y => exact congrArg Except.ok (nil_append y)

theorem both_assoc (x y z : Except EvalError Yield) :
    both (both x y) z = both x (both y z) := by
  cases x with
  | error => rfl
  | ok x =>
    cases y with
    | error => rfl
    | ok y =>
      cases z with
      | error => rfl
      | ok z => exact congrArg Except.ok (append_assoc x y z)

theorem both_eq_ok {x y : Except EvalError Yield} {z : Yield} (h : both x y = .ok z) :
    ∃ a b, x = .ok a ∧ y = .ok b ∧ a ++ b = z := by
  cases x with
  | error => cases h
  | ok a =>
    cases y with
    | error => cases h
    | ok b => exact ⟨a, b, rfl, rfl, Except.ok.inj h⟩

/-- The parts of a list, one after another. -/
def concat (parts : List Yield) : Yield := parts.foldr (· ++ ·) {}

/-- A whole template's text, or the failure that names what is missing, each name once. -/
def result (y : Yield) : Except CompileError String :=
  if y.missing.isEmpty then .ok (String.ofList y.text) else .error (.missing y.missing.eraseDups)

end Yield

/-- An element of an array with its place in the loop over it. -/
structure Element where
  text : String
  position : Nat
  count : Nat

/-- What a loop item stands for at an element. -/
def Element.item (e : Element) : LoopItem → String
  | .this => e.text
  | .index => toString e.position
  | .first => if e.position = 0 then "true" else "false"
  | .last => if e.position + 1 = e.count then "true" else "false"

/-- The elements of a loop over texts. -/
def Element.all (texts : List String) : List Element :=
  texts.zipIdx.map fun (text, position) => ⟨text, position, texts.length⟩

/-- What names stand for: bindings, declarations for what is not bound, and the options that say
what becomes of the rest. -/
structure Scope where
  bindings : Bindings
  declared? : String → Option Variable
  options : CompileOptions

namespace Scope

/-- The value of a name: its binding, or else its declared default. -/
def value? (σ : Scope) (name : String) : Option Value :=
  match σ.bindings name with
  | some v => some v
  | none => ((σ.declared? name).bind Variable.default).map Value.of

/-- The value that a block asks for; a name that is not bound counts as null. -/
def outer (σ : Scope) (name : String) : Value := (σ.bindings name).getD .null

/-- A value, or one of its properties. -/
def part (v : Value) : (property : Option String) → Except EvalError Value
  | none => .ok v
  | some p => v.get p

/-- What a variable yields: the text of its value, or of the value's property. -/
def yield (σ : Scope) (name : String) (property : Option String) : Except EvalError Yield :=
  match σ.value? name with
  | none =>
    .ok (if σ.options.strict then { missing := [name] } else
      { text := σ.options.missingText.toList })
  | some v => (part v property >>= Value.render).map fun s => { text := s.toList }

end Scope

namespace Forest

/-- What a forest yields, inside a loop at `element` or outside of every loop. -/
def meaning (σ : Scope) {ifs loops : Bool} (element : Option Element) :
    Forest ifs loops → Except EvalError Yield
  | .nil => .ok {}
  | .text s rest => Yield.both (.ok { text := s.chars }) (rest.meaning σ element)
  | .reference r rest =>
    Yield.both (σ.yield r.word.name (r.property.map Word.name)) (rest.meaning σ element)
  | .item i rest =>
    let text := match element with
      | none => braced i.name.toList
      | some e => (e.item i).toList
    Yield.both (.ok { text }) (rest.meaning σ element)
  | .conditional o body _ rest =>
    let kept := do if ← (σ.outer o.word.name).isTruthy then body.meaning σ element else .ok {}
    Yield.both kept (rest.meaning σ element)
  | .loop o body _ rest =>
    let repeated := do
      let texts ← (σ.outer o.word.name).items.mapM Value.render
      return .concat (← (Element.all texts).mapM fun e => body.meaning σ (some e))
    Yield.both repeated (rest.meaning σ element)

end Forest

end Promptuary
