import Promptuary.Calendar.Date

/-!
Moments: what a wall clock shows, to the microsecond, with or without a fixed offset. Two moments
compare if both have an offset or neither has one.
-/

namespace Promptuary.Calendar

/-- What a wall clock shows, in microseconds since the start of the year 1, and how many
microseconds the clock is ahead of the common time, if that is known. It is ahead by as much at all
times: a clock that is put forward in summer is another one then. -/
structure Moment where
  wall : Nat
  offset : Option Int
deriving DecidableEq, Repr

/-- Why a calculation with moments has no result. -/
inductive CalendarError where
  /-- A moment with an offset was compared with one without. -/
  | mixedZones
  /-- A moment with an offset was subtracted from one without, or the other way round. -/
  | mixedDifference
  /-- The result lies before the year 1 or after the year 9999. -/
  | outOfRange
  /-- The calendar has no such year. -/
  | noSuchYear (year : Nat)
  /-- The month has no such day. -/
  | noSuchDay
  /-- A span of days is too long to be represented. -/
  | spanTooLong (days : Int)
deriving DecidableEq, Repr

/-- The wording of a calendar error. -/
def CalendarError.message : CalendarError → String
  | .mixedZones => "can't compare offset-naive and offset-aware datetimes"
  | .mixedDifference => "can't subtract offset-naive and offset-aware datetimes"
  | .outOfRange => "date value out of range"
  | .noSuchYear year => s!"year {year} is out of range"
  | .noSuchDay => "day is out of range for month"
  | .spanTooLong days =>
    if -2147483648 ≤ days && days < 2147483648 then
      s!"days={days}; must have magnitude <= 999999999"
    else "Python int too large to convert to C int"

/-- Microseconds in a second, a minute, an hour and a day. -/
abbrev second : Nat := 1000000
@[inherit_doc second] abbrev minute : Nat := 60 * second
@[inherit_doc second] abbrev hour : Nat := 60 * minute
@[inherit_doc second] abbrev day : Nat := 24 * hour

/-- The first moment after the year 9999. -/
def endOfTime : Nat := 3652059 * day

namespace Moment

/-- The date that the wall clock shows. -/
def date (t : Moment) : Date := .ofDay (t.wall / day)

/-- The moment that a wall clock without an offset shows at a time of a date. -/
def of (d : Date) (timeOfDay : Nat) : Moment := ⟨d.toDay * day + timeOfDay, none⟩

/-- The position on the common time line, for moments with an offset. -/
def instant (t : Moment) : Int := t.wall - t.offset.getD 0

/-- The order of two moments. -/
def compare? (s t : Moment) : Except CalendarError Ordering :=
  match s.offset, t.offset with
  | none, none => .ok (compare s.wall t.wall)
  | some _, some _ => .ok (compare s.instant t.instant)
  | _, _ => .error .mixedZones

/-- Whether two moments are the same; one with an offset is never the same as one without. -/
def same (s t : Moment) : Bool := s.compare? t matches .ok .eq

/-- Whether one moment comes before another. -/
def lt? (s t : Moment) : Except CalendarError Bool := return (← s.compare? t) == .lt

/-- Whether one moment does not come after another. -/
def le? (s t : Moment) : Except CalendarError Bool := return (← s.compare? t) != .gt

/-- The microseconds from one moment to another. -/
def since? (t s : Moment) : Except CalendarError Int :=
  match s.offset, t.offset with
  | none, none => .ok (t.wall - s.wall)
  | some _, some _ => .ok (t.instant - s.instant)
  | _, _ => .error .mixedDifference

/-- A moment with its wall clock turned by some microseconds. -/
def shift? (t : Moment) (micros : Int) : Except CalendarError Moment :=
  let wall := t.wall + micros
  if 0 ≤ wall && wall < endOfTime then .ok { t with wall := wall.toNat } else .error .outOfRange

/-- A moment some days earlier. -/
def daysBefore? (t : Moment) (days : Int) : Except CalendarError Moment :=
  if 999999999 < days.natAbs then .error (.spanTooLong days) else t.shift? (-(days * day))

end Moment

end Promptuary.Calendar
