import Promptuary.Text.Blank
import Promptuary.Text.Digit
import Promptuary.Text.Quoted
import Promptuary.Number.FloatText

/-!
Numerals read from text. An integer has at most `digitLimit` digits, read or written. A numeral
with a point or an exponent is read as the nearest float.
-/

namespace Promptuary.Number

/-- The most digits that an integer may have as text. -/
def digitLimit : Nat := 4300

/-- Why a text and an integer could not be turned into each other. -/
inductive IntegerError where
  /-- A character of the text is no decimal digit. -/
  | notANumeral (text : String)
  /-- The text has more digits than the limit. -/
  | tooManyDigits (count : Nat)
  /-- The integer has more digits than the limit. -/
  | tooLargeToWrite
deriving DecidableEq, Repr

/-- What an integer beyond the limit is told. -/
def limitMessage : String :=
  s!"Exceeds the limit ({digitLimit} digits) for integer string conversion"

/-- What an integer beyond the limit is advised. -/
def limitAdvice : String := "use sys.set_int_max_str_digits() to increase the limit"

/-- The wording of an integer error. -/
def IntegerError.message : IntegerError → String
  | .notANumeral text =>
    "invalid literal for int() with base 10: " ++ String.ofList ((Text.quoted text).toList.take 200)
  | .tooManyDigits count => limitMessage ++ s!": value has {count} digits; " ++ limitAdvice
  | .tooLargeToWrite => limitMessage ++ "; " ++ limitAdvice

/-- The number that decimal digits of any script denote, most significant first. -/
def ofDigits : List Char → Option Nat :=
  List.foldl (fun n? c => do return 10 * (← n?) + (← Text.digitValue? c)) (some 0)

/-- Reads a text of digits. The limit is on the decimal digits before anything else. -/
def readDigits (text : String) : Except IntegerError Nat :=
  let count := (text.toList.takeWhile Text.isDecimal).length
  if digitLimit < count then .error (.tooManyDigits count)
  else
    match ofDigits text.toList with
    | some n => .ok n
    | none => .error (.notANumeral text)

/-- Writes an integer. -/
def writeInt (n : Int) : Except IntegerError String :=
  if digitLimit < digitCount n.natAbs then .error .tooLargeToWrite
  else .ok (String.ofList (intDigits n))

/-- The float nearest to `± mantissa · 10 ^ exponent`. Beyond the range of floats it is an infinity
or zero, whatever the exponent. -/
def floatOfDecimal (negative : Bool) (mantissa : Nat) (exponent : Int) : Float :=
  let lead := exponent + digitCount mantissa
  let size :=
    if mantissa = 0 || lead < -400 then 0.0
    else if 400 < lead then 1.0 / 0.0
    else Float.ofScientific mantissa (exponent < 0) exponent.natAbs
  if negative then -size else size

/-- The parts of a decimal numeral. -/
structure Numeral where
  negative : Bool
  /-- The digits before the point. -/
  whole : List Char
  /-- The digits after the point, if there is one. -/
  fraction : Option (List Char)
  /-- The exponent, if there is one. -/
  exponent : Option Int

/-- The float that a numeral denotes. -/
def Numeral.toFloat (n : Numeral) : Float :=
  let fraction := n.fraction.getD []
  floatOfDecimal n.negative ((ofDigits (n.whole ++ fraction)).getD 0)
    (n.exponent.getD 0 - fraction.length)

/-- An optional sign and what follows it. -/
def takeSign : List Char → Bool × List Char
  | '-' :: rest => (true, rest)
  | '+' :: rest => (false, rest)
  | cs => (false, cs)

/-- ASCII digits and what follows them. -/
def takeDigits (cs : List Char) : List Char × List Char :=
  (cs.takeWhile Char.isDigit, cs.dropWhile Char.isDigit)

/-- An exponent of at least one digit, if the text goes on with one. -/
def takeExponent? (cs : List Char) : Option (Int × List Char) :=
  match cs with
  | c :: rest =>
    if c = 'e' || c = 'E' then
      let (negative, rest) := takeSign rest
      let (digits, rest) := takeDigits rest
      match digits, ofDigits digits with
      | _ :: _, some n => some (if negative then -(n : Int) else n, rest)
      | _, _ => none
    else none
  | [] => none

/-- A point and the digits after it, if the text goes on with a point. -/
def takeFraction (cs : List Char) : Option (List Char) × List Char :=
  match cs with
  | '.' :: rest =>
    let (digits, rest) := takeDigits rest
    (some digits, rest)
  | _ => (none, cs)

/-- The names of the values that are not finite, in small letters. -/
def namedFloat? (cs : List Char) : Option Float :=
  let name := String.ofList (cs.map Char.toLower)
  if name = "nan" then some notANumber
  else if name = "inf" || name = "infinity" then some (1.0 / 0.0)
  else none

/-- Reads a decimal numeral or the name of a value that is not finite, after an optional sign. A
digit must stand before or after the point. -/
def readPlainFloat? (text : List Char) : Option Float :=
  let (negative, cs) := takeSign text
  match namedFloat? cs with
  | some x => some (if negative then -x else x)
  | none =>
    let (whole, rest) := takeDigits cs
    let (fraction, rest) := takeFraction rest
    if whole.isEmpty && (fraction.getD []).isEmpty then none
    else
      match rest with
      | [] => some (Numeral.toFloat ⟨negative, whole, fraction, none⟩)
      | _ =>
        match takeExponent? rest with
        | some (e, []) => some (Numeral.toFloat ⟨negative, whole, fraction, some e⟩)
        | _ => none

/-- Single underscores between the other characters may group digits; they are dropped. There has to
be one. -/
def dropUnderscores? (cs : List Char) : Option (List Char) :=
  let doubled := (cs.zip (cs.drop 1)).any fun pair => pair.1 = '_' && pair.2 = '_'
  if !cs.contains '_' || cs.head? = some '_' || cs.getLast? = some '_' || doubled then none
  else some (cs.filter (· ≠ '_'))

/-- Reads a float between white space, or one with grouping underscores and no white space. -/
def readFloat? (text : String) : Option Float :=
  match readPlainFloat? (Text.trimBy Text.isWhite text.toList) with
  | some x => some x
  | none => dropUnderscores? text.toList >>= readPlainFloat?

/-! ### Integers in lenient form -/

/-- Why a text is read as no integer. -/
inductive IntegerFault where
  | malformed
  /-- The text begins with more digits than the limit. -/
  | tooLong
deriving DecidableEq, Repr

/-- Reads an integer without zeros in front, after an optional minus sign. -/
def readPlainInt (cs : List Char) : Except IntegerFault Int :=
  let (negative, cs) := match cs with
    | '-' :: rest => (true, rest)
    | _ => (false, cs)
  let (digits, rest) := takeDigits cs
  if digits.head? = some '0' && digits.length ≠ 1 then .error .malformed
  else if digitLimit < digits.length then .error .tooLong
  else if digits.isEmpty || !rest.isEmpty then .error .malformed
  else
    match ofDigits digits with
    | some n => .ok (if negative then -(n : Int) else n)
    | none => .error .malformed

/-- The zeros in front of a numeral dropped, except the last character if nothing else follows them,
and the one before a point. Underscores among the zeros count as zeros. -/
def dropLeadingZeros? : List Char → Option (List Char)
  | '0' :: rest =>
    let zeros := '0' :: rest.takeWhile fun c => c = '0' || c = '_'
    let last := (zeros.getLast?).getD '0'
    match rest.dropWhile fun c => c = '0' || c = '_' with
    | [] => some [last]
    | '.' :: more => some (last :: '.' :: more)
    | c :: more => if c.isDigit || c = '-' then some (c :: more) else none
  | c :: rest => if c.isDigit then some (c :: rest) else none
  | [] => none

/-- A point with nothing but zeros after it dropped, and these zeros. -/
def dropZeroFraction (cs : List Char) : List Char :=
  match cs.dropWhile (· ≠ '.') with
  | '.' :: zeros =>
    if !zeros.isEmpty && zeros.all (· = '0') then cs.takeWhile (· ≠ '.') else cs
  | _ => cs

/-- The plain form of a numeral that may have zeros in front, a fraction of zeros and grouping
underscores. -/
def plainNumeral? (cs : List Char) : Option (List Char) := do
  let cs := dropZeroFraction (← dropLeadingZeros? cs)
  return (dropUnderscores? cs).getD cs

/-- The plain form of an integer that may stand between white space and after a sign. -/
def plainForm? (cs : List Char) : Option (List Char) :=
  match Text.trimBy Text.isWhite cs with
  | '+' :: rest => plainNumeral? rest
  | '-' :: rest => (plainNumeral? rest).map ('-' :: ·)
  | cs => plainNumeral? cs

/-- Reads an integer as it stands, or else in its plain form. -/
def readInt (text : String) : Except IntegerFault Int :=
  match readPlainInt text.toList with
  | .error .malformed =>
    match plainForm? text.toList with
    | some cs => readPlainInt cs
    | none => .error .malformed
  | r => r

end Promptuary.Number
