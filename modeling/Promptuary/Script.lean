/-!
Sources of values that are fixed in advance: the readings of a clock, the replies of a server.
-/

namespace Promptuary

/-- The values that a source gives next, and the one that it goes on giving afterwards. -/
structure Script (α : Type) where
  upcoming : List α
  afterwards : α

namespace Script

variable {α : Type}

/-- A source that always gives the same value. -/
def always (a : α) : Script α := ⟨[], a⟩

/-- A source that gives the values of a list, the last one again and again. -/
def ofList (values : List α) (default : α) : Script α := ⟨values, values.getLastD default⟩

/-- The value that a source gives next. -/
def current (s : Script α) : α := s.upcoming.headD s.afterwards

/-- The source after it has given a value. -/
def rest (s : Script α) : Script α := { s with upcoming := s.upcoming.drop 1 }

end Script

end Promptuary
