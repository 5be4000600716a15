import Promptuary.Datum.Basic
import Promptuary.Text.Quoted

/-!
Data as messages show them: a text stands alone as it is and inside a container between quotes,
truth values and the absent value have capitals, a tuple of one item keeps its comma.
-/

namespace Promptuary

open Number (IntegerError writeInt floatText)

namespace Datum

/-- The offset of a moment inside a container. -/
def offsetShown (offset : Int) : String :=
  if offset = 0 then "datetime.timezone.utc"
  else
    let days := Int.fdiv offset Calendar.day
    let seconds := Int.fmod offset Calendar.day / Calendar.second
    let micros := Int.fmod offset Calendar.second
    let parts := [("days", days), ("seconds", seconds), ("microseconds", micros)]
    let shown := (parts.filter (·.2 ≠ 0)).map fun (name, n) => s!"{name}={n}"
    "datetime.timezone(datetime.timedelta(" ++ ", ".intercalate shown ++ "))"

/-- A moment inside a container: its parts, without seconds or microseconds that are zero at the
end. -/
def momentShown (t : Calendar.Moment) : String :=
  let d := t.date
  let time := t.wall % Calendar.day
  let seconds := time / Calendar.second % 60
  let micros := time % Calendar.second
  let parts := [d.year, d.month, d.day, time / Calendar.hour, time / Calendar.minute % 60]
  let parts := if micros ≠ 0 then parts ++ [seconds, micros]
    else if seconds ≠ 0 then parts ++ [seconds] else parts
  let zone := match t.offset with
    | none => ""
    | some offset => ", tzinfo=" ++ offsetShown offset
  "datetime.datetime(" ++ ", ".intercalate (parts.map toString) ++ zone ++ ")"

/-- Token counts with a separator. -/
def usageShown (separator : String) (u : TokenUsage) : String :=
  s!"prompt={u.prompt}{separator}completion={u.completion}{separator}total={u.total}"

mutual

/-- A datum inside a container. -/
def shown : Datum → Except IntegerError String
  | .null => .ok "None"
  | .bool b => .ok (if b then "True" else "False")
  | .int n => writeInt n
  | .float x => .ok (floatText .message x)
  | .nan => .ok (floatText .message Number.notANumber)
  | .text s => .ok (Text.quoted s)
  | .list xs => do return "[" ++ ", ".intercalate (← shownItems xs) ++ "]"
  | .tuple xs => do
    let items ← shownItems xs
    let comma := if items.length = 1 then "," else ""
    return "(" ++ ", ".intercalate items ++ comma ++ ")"
  | .object fs => do return "\x7b" ++ ", ".intercalate (← shownFields fs) ++ "\x7d"
  | .moment t => .ok (momentShown t)
  | .usage u => .ok ("TokenUsage(" ++ usageShown ", " u ++ ")")

/-- The items of a container. -/
def shownItems : List Datum → Except IntegerError (List String)
  | [] => .ok []
  | x :: xs => do return (← x.shown) :: (← shownItems xs)

/-- The fields of an object. -/
def shownFields : List (String × Datum) → Except IntegerError (List String)
  | [] => .ok []
  | (key, value) :: fs => do
    return (Text.quoted key ++ ": " ++ (← value.shown)) :: (← shownFields fs)

end

/-- A datum that stands alone. -/
def message : Datum → Except IntegerError String
  | .text s => .ok s
  | .moment t => .ok t.plain
  | .usage u => .ok (usageShown " " u)
  | d => d.shown

end Datum

end Promptuary
