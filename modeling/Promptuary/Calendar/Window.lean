import Promptuary.Calendar.Moment

/-!
Windows of the time line. An interval cuts the time line into windows that follow one another
without gap: minutes, hours, days, weeks from Monday to Sunday, and calendar months.
-/

namespace Promptuary.Calendar

/-- The kinds of window, the finest first. -/
inductive Interval where
  | minute | hour | day | week | month
deriving DecidableEq, Repr

namespace Interval

/-- All intervals, the finest first. -/
def all : List Interval := [.minute, .hour, .day, .week, .month]

/-- The name of an interval. -/
def name : Interval → String
  | .minute => "minute"
  | .hour => "hour"
  | .day => "day"
  | .week => "week"
  | .month => "month"

/-- The interval with a name. -/
def ofName? (s : String) : Option Interval := all.find? (·.name = s)

@[simp] theorem ofName?_name (i : Interval) : ofName? i.name = some i := by
  cases i <;> rfl

/-- The length of a window in seconds; thirty days stand for a month. -/
def nominalSeconds : Interval → Nat
  | .minute => 60
  | .hour => 60 * 60
  | .day => 24 * 60 * 60
  | .week => 7 * 24 * 60 * 60
  | .month => 30 * 24 * 60 * 60

/-- The interval whose snapshots are rolled up into those of an interval; minutes have none. -/
def source? : Interval → Option Interval
  | .minute => none
  | .hour => some .minute
  | .day => some .hour
  | .week => some .day
  | .month => some .day

/-- The start of the window that a reading of the wall clock falls into. The count of days starts
on a Monday, so whole weeks start on Mondays. -/
def floor (i : Interval) (wall : Nat) : Nat :=
  match i with
  | .month =>
    let d := Date.ofDay (wall / Calendar.day)
    Date.toDay { d with day := 1 } * Calendar.day
  | _ => wall - wall % (i.nominalSeconds * second)

/-- The start of the window that holds a moment. -/
def startOf (i : Interval) (t : Moment) : Moment := { t with wall := i.floor t.wall }

/-- A moment with the same day and time in the month after its own. -/
def nextMonth? (t : Moment) : Except CalendarError Moment :=
  let d := t.date
  let next : Date := if d.month = 12 then ⟨d.year + 1, 1, d.day⟩ else ⟨d.year, d.month + 1, d.day⟩
  if 9999 < next.year then .error (.noSuchYear next.year)
  else if daysInMonth next.year next.month < next.day then .error .noSuchDay
  else .ok { t with wall := next.toDay * Calendar.day + t.wall % Calendar.day }

/-- The moment one window after a given one; from the start of a window, its exclusive end. -/
def endOf? (i : Interval) (start : Moment) : Except CalendarError Moment :=
  match i with
  | .month => nextMonth? start
  | _ => start.shift? (i.nominalSeconds * second : Nat)

end Interval

end Promptuary.Calendar
