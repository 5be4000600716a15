import Promptuary.Calendar.Order
import Promptuary.Template.Record

/-!
Histories: the versions of a template that are kept, each under a label of its own. A history has a
bound; beyond it the versions that are oldest by their time are dropped.
-/

namespace Promptuary

/-- The versions of a template, in order. -/
abbrev History := List Version

namespace History

/-- The labels of a history. -/
def labels (h : History) : List String := h.map (·.label)

/-- The version with a label. -/
def find? (h : History) (label : String) : Option Version := List.find? (·.label = label) h

/-- A history that was brought down to its bound, and what was dropped. -/
structure Trimmed where
  kept : History
  dropped : List Version := []

/-- Brings a history down to a bound. One that is within the bound keeps its order. -/
def trim (bound : Nat) (h : History) : Except Calendar.CalendarError Trimmed :=
  if h.length ≤ bound then .ok { kept := h }
  else do
    let ordered ← Calendar.Moment.sortOn? Version.createdAt h
    let excess := h.length - bound
    return { kept := ordered.drop excess, dropped := ordered.take excess }

/-- Adds a version to a history with a bound. -/
def add (bound : Nat) (v : Version) (h : History) : Except Calendar.CalendarError Trimmed :=
  trim bound (h ++ [v])

end History

end Promptuary
