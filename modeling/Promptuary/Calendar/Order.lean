import Promptuary.Calendar.Moment

/-!
Lists of moments in order. Moments with an offset and moments without one cannot be put in order
together; a list that has both has no order and no latest moment.
-/

namespace Promptuary.Calendar

namespace Moment

/-- Whether all moments have an offset, or none has one. -/
def agree : List Moment → Bool
  | [] => true
  | t :: rest => rest.all fun other => other.offset.isSome = t.offset.isSome

/-- Whether one moment comes before another, among moments that agree. -/
def isBefore (s t : Moment) : Bool := s.instant < t.instant

/-- Items in the order of their moments; those of one moment keep their order. -/
def sortOn? {β : Type} (key : β → Moment) (xs : List β) : Except CalendarError (List β) :=
  if agree (xs.map key) then .ok (xs.mergeSort fun a b => !(key b).isBefore (key a))
  else .error .mixedZones

/-- The first of the latest moments. -/
def latest? : List Moment → Except CalendarError (Option Moment)
  | [] => .ok none
  | t :: rest =>
    if agree (t :: rest) then
      .ok (some (rest.foldl (fun best other => if best.isBefore other then other else best) t))
    else .error .mixedZones

/-- Whether a moment lies in the span from one moment up to, but not including, another. -/
def isIn? (start stop t : Moment) : Except CalendarError Bool := do
  if ← start.le? t then t.lt? stop else return false

/-- Whether a moment lies in the span from one moment up to and including another. -/
def isWithin? (start stop t : Moment) : Except CalendarError Bool := do
  if ← start.le? t then t.le? stop else return false

end Moment

end Promptuary.Calendar
