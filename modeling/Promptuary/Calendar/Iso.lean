import Promptuary.Calendar.Moment
import Promptuary.Number.Reading

/-!
Moments as text: year, month and day, a separator, the time of day, a fraction of six digits if it
is not zero, and the offset if there is one. Reading is more lenient than writing: the seconds and
the fraction may be missing, a fraction may have any number of digits, and a bare number counts
seconds, or from some size on milliseconds, since 1970.
-/

namespace Promptuary.Calendar

open Number (paddedDigits)

/-! ### Writing -/

/-- A date as text. -/
def Date.text (d : Date) : List Char :=
  paddedDigits 4 d.year ++ '-' :: paddedDigits 2 d.month ++ '-' :: paddedDigits 2 d.day

/-- A time of day in microseconds as text. -/
def timeText (timeOfDay : Nat) : List Char :=
  let fraction := timeOfDay % second
  paddedDigits 2 (timeOfDay / hour) ++ ':' :: paddedDigits 2 (timeOfDay / minute % 60) ++
    ':' :: paddedDigits 2 (timeOfDay / second % 60) ++
    if fraction = 0 then [] else '.' :: paddedDigits 6 fraction

/-- The sign of an offset. -/
def offsetSign (offset : Int) : Char := if offset < 0 then '-' else '+'

/-- An offset in hours and minutes. Less than a minute is not written, and less than half a second
counts as no offset, for which the letter Z stands. -/
def shortOffset (offset : Int) : List Char :=
  let seconds := (2 * offset.natAbs + second) / (2 * second)
  if seconds = 0 then ['Z']
  else
    offsetSign offset :: paddedDigits 2 (seconds / 3600) ++
      ':' :: paddedDigits 2 (seconds / 60 % 60)

/-- An offset in hours and minutes, with the seconds and their fraction if there are any. -/
def fullOffset (offset : Int) : List Char :=
  let n := offset.natAbs
  offsetSign offset :: paddedDigits 2 (n / hour) ++ ':' :: paddedDigits 2 (n / minute % 60) ++
    if n % minute = 0 then []
    else
      ':' :: paddedDigits 2 (n / second % 60) ++
        if n % second = 0 then [] else '.' :: paddedDigits 6 (n % second)

/-- A moment as text. -/
def Moment.text (separator : Char) (offsetText : Int → List Char) (t : Moment) : String :=
  String.ofList <| t.date.text ++ separator :: timeText (t.wall % day) ++
    match t.offset with
    | none => []
    | some offset => offsetText offset

/-- The form in documents. -/
def Moment.iso (t : Moment) : String := t.text 'T' shortOffset

/-- The form in events and in bare answers. -/
def Moment.isoDigits (t : Moment) : String := t.text 'T' fullOffset

/-- The form inside other text. -/
def Moment.plain (t : Moment) : String := t.text ' ' fullOffset

/-! ### Reading -/

/-- Why a text is no date. -/
inductive DateFault where
  | tooShort
  | year
  | month
  | day
  | separator
  | monthRange
  | dayRange
  | extra
  | tooEarly
  | tooLate
  | notANumber
  /-- The text is well-formed, but the calendar begins with the year 1. -/
  | noYear
deriving DecidableEq, Repr

/-- The wording of a date fault. -/
def DateFault.message : DateFault → String
  | .tooShort => "input is too short"
  | .year => "invalid character in year"
  | .month => "invalid character in month"
  | .day => "invalid character in day"
  | .separator => "invalid date separator, expected `-`"
  | .monthRange => "month value is outside expected range of 1-12"
  | .dayRange => "day value is outside expected range"
  | .extra => "unexpected extra characters at the end of the input"
  | .tooEarly => "dates before 0000 are not supported as unix timestamps"
  | .tooLate => "dates after 9999 are not supported as unix timestamps"
  | .notANumber => "NaN values not permitted"
  | .noYear => "year 0 is out of range"

/-- Reads exactly `count` ASCII digits. -/
def digitsOf? (count : Nat) (cs : List Char) : Option (Nat × List Char) :=
  let digits := cs.take count
  if digits.length = count && digits.all Char.isDigit then
    (Number.ofDigits digits).map (·, cs.drop count)
  else none

/-- Reads exactly `count` ASCII digits or reports a fault. -/
def digitsOr (fault : DateFault) (count : Nat) (cs : List Char) :
    Except DateFault (Nat × List Char) :=
  match digitsOf? count cs with
  | some r => .ok r
  | none => .error fault

/-- Reads a hyphen. -/
def hyphen : List Char → Except DateFault (List Char)
  | '-' :: rest => .ok rest
  | _ => .error .separator

/-- Reads a date at the start of a text. -/
def readDate (text : String) : Except DateFault (Date × List Char) := do
  if text.utf8ByteSize < 10 then throw .tooShort
  let (year, cs) ← digitsOr .year 4 text.toList
  let cs ← hyphen cs
  let (month, cs) ← digitsOr .month 2 cs
  let cs ← hyphen cs
  let (day, cs) ← digitsOr .day 2 cs
  if month < 1 || 12 < month then throw .monthRange
  if day < 1 || daysInMonth year month < day then throw .dayRange
  return (⟨year, month, day⟩, cs)

/-- Reads the digits of a fraction of a second; those after the sixth are dropped. -/
def readFraction? (cs : List Char) : Option (Nat × List Char) :=
  let (digits, rest) := Number.takeDigits cs
  if digits.isEmpty then none
  else
    let kept := digits.take 6
    (Number.ofDigits (kept ++ List.replicate (6 - kept.length) '0')).map (·, rest)

/-- Reads seconds and their fraction after the minutes, if there are any. -/
def readSeconds? : List Char → Option (Nat × List Char)
  | ':' :: cs => do
    let (s, cs) ← digitsOf? 2 cs
    if 59 < s then none
    match cs with
    | c :: rest =>
      if c = '.' || c = ',' then
        let (fraction, rest) ← readFraction? rest
        return (s * second + fraction, rest)
      else return (s * second, cs)
    | [] => return (s * second, [])
  | cs => some (0, cs)

/-- Reads the sign of an offset: whether it is negative. -/
def readOffsetSign? (c : Char) : Option Bool :=
  if c = '+' then some false else if c = '-' || c = '−' then some true else none

/-- Reads the hours and minutes of an offset, which may be separated by a colon. -/
def readHoursMinutes? (cs : List Char) : Option (Nat × List Char) := do
  let (h, cs) ← digitsOf? 2 cs
  let cs := match cs with
    | ':' :: rest => rest
    | _ => cs
  let (m, cs) ← digitsOf? 2 cs
  if 59 < m then none else return (h * hour + m * minute, cs)

/-- An offset of less than a day. -/
def offsetOf? (negative : Bool) (size : Nat) : Option Int :=
  if size < day then some (if negative then -(size : Int) else size) else none

/-- Reads an offset in hours and minutes up to the end of a text. -/
def readOffset? : List Char → Option (Option Int)
  | [] => some none
  | ['Z'] | ['z'] => some (some 0)
  | sign :: cs => do
    let negative ← readOffsetSign? sign
    let (size, cs) ← readHoursMinutes? cs
    if cs.isEmpty then return some (← offsetOf? negative size) else none

/-- Reads an offset that may have seconds and a fraction up to the end of a text. -/
def readFullOffset? : List Char → Option (Option Int)
  | [] => some none
  | ['Z'] | ['z'] => some (some 0)
  | sign :: cs => do
    let negative ← readOffsetSign? sign
    let (size, cs) ← readHoursMinutes? cs
    let (s, cs) ← readSeconds? cs
    if cs.isEmpty then return some (← offsetOf? negative (size + s)) else none

/-- Reads a time of day and an offset up to the end of a text. -/
def readTime? (offset? : List Char → Option (Option Int)) (cs : List Char) :
    Option (Nat × Option Int) := do
  let (h, cs) ← digitsOf? 2 cs
  let cs ← match cs with
    | ':' :: rest => some rest
    | _ => none
  let (m, cs) ← digitsOf? 2 cs
  if 23 < h || 59 < m then none
  let (s, cs) ← readSeconds? cs
  return (h * hour + m * minute + s, ← offset? cs)

/-- A date with a time of day and an offset. -/
def momentOf (date : Date) (time : Nat) (offset : Option Int) : Except DateFault Moment :=
  if date.year = 0 then .error .noYear else .ok { Moment.of date time with offset }

/-- Reads a date with a time of day. -/
def readDateTime? (text : String) : Option (Except DateFault Moment) :=
  match readDate text with
  | .ok (date, separator :: cs) =>
    if separator = 'T' || separator = 't' || separator = ' ' || separator = '_' then
      (readTime? readOffset? cs).map fun (time, offset) => momentOf date time offset
    else none
  | _ => none

/-- Reads a moment as `Moment.isoDigits` and `Moment.plain` write it. -/
def readIso? (text : String) : Option Moment :=
  match readDate text with
  | .ok (date, []) => (momentOf date 0 none).toOption
  | .ok (date, _ :: cs) => do
    let (time, offset) ← readTime? readFullOffset? cs
    (momentOf date time offset).toOption
  | .error _ => none

/-! ### Counts of seconds -/

/-- The start of the year 1970. -/
def epoch : Nat := 719162 * day

/-- The number of seconds from which on a count is one of milliseconds. -/
def secondsLimit : Nat := 20000000000

/-- The moment some seconds and microseconds after 1970 began. -/
def ofSeconds (seconds : Int) (micros : Nat) : Except DateFault Moment :=
  let seconds := seconds + (micros / second : Nat)
  let wall := (epoch : Int) + seconds * second + (micros % second : Nat)
  if seconds < -62167219200 then .error .tooEarly
  else if 253402300799 < seconds then .error .tooLate
  else if wall < 0 then .error .noYear
  else .ok ⟨wall.toNat, some 0⟩

/-- The moment some milliseconds and microseconds after 1970 began. -/
def ofMillis (millis : Int) (micros : Nat) : Except DateFault Moment :=
  ofSeconds (Int.fdiv millis 1000) (micros + (Int.fmod millis 1000).toNat * 1000)

/-- The moment some seconds after 1970 began; beyond a limit they are milliseconds. -/
def ofUnix (seconds : Int) : Except DateFault Moment :=
  if seconds.natAbs ≤ secondsLimit then ofSeconds seconds 0 else ofMillis seconds 0

/-- A count of microseconds, to the nearest one. -/
def nearestMicros (x : Float) : Nat := x.round.toUInt64.toNat

/-- The moment that a number of seconds, or beyond a limit of milliseconds, denotes. What is left of
the number counts forwards from the whole number below it, also for a negative one. -/
def ofUnixFloat (x : Float) : Except DateFault Moment :=
  match Number.Binary.ofFloat x with
  | .nan => .error .notANumber
  | .infinite negative => .error (if negative then .tooEarly else .tooLate)
  | b =>
    let whole := b.floor?.getD 0
    let share := x - x.floor
    if 20000000000 < x.abs then ofMillis whole (nearestMicros (share * 1000))
    else ofSeconds whole (nearestMicros (share * 1000000))

/-- The largest count of seconds that a text may hold. A negative one may be larger by one. -/
def countLimit : Nat := 9223372036854775807

/-- Reads a bare number of seconds. The digits before a point have to be within the limit; a number
with a point that denotes no moment counts as no number. -/
def readUnix? (text : String) : Option (Except DateFault Moment) :=
  let (negative, cs) := Number.takeSign text.toList
  let (whole, rest) := Number.takeDigits cs
  let (fraction, rest) := Number.takeFraction rest
  let count := (Number.ofDigits whole).getD 0
  let limit := if negative then countLimit + 1 else countLimit
  if !rest.isEmpty || (whole ++ fraction.getD []).isEmpty || limit < count then none
  else
    match fraction with
    | none => some (ofUnix (if negative then -(count : Int) else count))
    | some _ =>
      match ofUnixFloat (Number.Numeral.toFloat ⟨negative, whole, fraction, none⟩) with
      | .error .tooEarly | .error .tooLate => none
      | r => some r

/-! ### Moments as data -/

/-- Reads a moment: a date with a time, a bare number, or a date alone. The fault is that of the
text as a date. -/
def readMoment (text : String) : Except DateFault Moment :=
  match readDateTime? text with
  | some r => r
  | none =>
    match readUnix? text with
    | some r => r
    | none => do
      let (date, rest) ← readDate text
      if rest.isEmpty then momentOf date 0 none else throw .extra

end Promptuary.Calendar
