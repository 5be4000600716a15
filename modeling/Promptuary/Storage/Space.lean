import Promptuary.Entries

/-!
The spaces that documents are kept in. The same key names different documents in different spaces.
-/

namespace Promptuary.Storage

/-- A space of documents. -/
inductive Space where
  | templates | versions | executions
deriving DecidableEq, Repr

namespace Space

/-- All spaces. -/
def all : List Space := [.templates, .versions, .executions]

/-- The name of a space. -/
def name : Space → String
  | .templates => "templates"
  | .versions => "versions"
  | .executions => "executions"

/-- The space with a name. -/
def ofName? (s : String) : Option Space := all.find? (·.name = s)

@[simp] theorem ofName?_name (s : Space) : ofName? s.name = some s := by
  cases s <;> rfl

end Space

/-- One map for each space. -/
abbrev Spaces (α : Type) := Space → Entries String α

namespace Spaces

variable {α : Type}

/-- Spaces that hold nothing. -/
def empty : Spaces α := fun _ => []

/-- Changes the map of one space. -/
def modify (spaces : Spaces α) (space : Space) (f : Entries String α → Entries String α) :
    Spaces α :=
  fun other => if other = space then f (spaces other) else spaces other

@[simp] theorem modify_self (spaces : Spaces α) (space : Space)
    (f : Entries String α → Entries String α) :
    spaces.modify space f space = f (spaces space) := by
  simp [modify]

theorem modify_of_ne (spaces : Spaces α) {space other : Space} (ne : other ≠ space)
    (f : Entries String α → Entries String α) :
    spaces.modify space f other = spaces other := by
  simp [modify, ne]

end Spaces

end Promptuary.Storage
