import Promptuary.Text.Printable

/-!
Quoted text, as messages show it: between single quotes, or between double quotes when the text
holds a single quote and no double quote. The quote in use, the backslash and every character that
is not printable are escaped.
-/

namespace Promptuary.Text

/-- A digit of a code point's number, in lower case. -/
def hexDigit (d : Nat) : Char := if d < 10 then Char.ofNat (48 + d) else Char.ofNat (87 + d)

/-- A number in hexadecimal, in exactly `width` digits. -/
def hexDigits (n : Nat) : (width : Nat) → List Char
  | 0 => []
  | width + 1 => hexDigits (n / 16) width ++ [hexDigit (n % 16)]

/-- A character inside the given quotes. -/
def quoteChar (quote c : Char) : List Char :=
  let n := c.toNat
  if c = quote || c = '\\' then ['\\', c]
  else if c = '\t' then ['\\', 't']
  else if c = '\n' then ['\\', 'n']
  else if c = '\r' then ['\\', 'r']
  else if isPrintable c then [c]
  else if n < 0x100 then '\\' :: 'x' :: hexDigits n 2
  else if n < 0x10000 then '\\' :: 'u' :: hexDigits n 4
  else '\\' :: 'U' :: hexDigits n 8

/-- The quote that a text is put between. -/
def quoteMark (s : String) : Char :=
  if s.contains '\'' && !s.contains '"' then '"' else '\''

/-- A text between quotes. -/
def quoted (s : String) : String :=
  let mark := quoteMark s
  String.ofList (mark :: s.toList.flatMap (quoteChar mark) ++ [mark])

end Promptuary.Text
